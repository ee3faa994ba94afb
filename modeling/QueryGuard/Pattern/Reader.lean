import QueryGuard.Pattern.Expr
import QueryGuard.Text.Blank
import QueryGuard.Text.CaseFold

/-!
# Reading patterns

The usual notation of regular patterns, without looks at longer contexts, back
references and atomic groups. What cannot be read is no pattern; the reason is
not kept. Flags hold from where they are set to the end of the group around.
-/

namespace QueryGuard.Pattern

/-- Flags in force. Greediness is not among them: it does not matter to the
question whether a match exists. -/
structure Flags where
  insensitive : Bool
  multiLine : Bool
  dotAll : Bool
  anyNewline : Bool
  unicode : Bool
  verbose : Bool

namespace Reader

def initialFlags (insensitive : Bool) : Flags := ⟨insensitive, false, false, false, true, false⟩

-- ---------------------------------------------------------------------------
-- Blanks
-- ---------------------------------------------------------------------------

/-- Skips blanks, and comments from a number sign to the end of the line. -/
def skipBlanks (inComment : Bool) : List Char → List Char
  | [] => []
  | c :: rest =>
    if inComment then skipBlanks (c != '\n') rest
    else if Text.isBlank c then skipBlanks false rest
    else if c = '#' then skipBlanks true rest
    else c :: rest

/-- In verbose patterns blanks do not count. -/
def spaced (verbose : Bool) (text : List Char) : List Char :=
  if verbose then skipBlanks false text else text

/-- The character behind the first one, blanks of verbose patterns aside. Of a
comment only the number sign is passed over. -/
def peekBlanks (inComment : Bool) : List Char → Option Char
  | [] => none
  | c :: rest =>
    if Text.isBlank c then peekBlanks inComment rest
    else if c = '#' && !inComment then peekBlanks true rest
    else some c

def peek (verbose : Bool) : List Char → Option Char
  | _ :: rest => if verbose then (peekBlanks false rest).or rest.head? else rest.head?
  | [] => none

-- ---------------------------------------------------------------------------
-- Numbers
-- ---------------------------------------------------------------------------

/-- The decimal digits next, with blanks of verbose patterns in between. -/
def decimalDigits (verbose inComment : Bool) (read : List Nat) :
    List Char → List Nat × List Char
  | [] => (read.reverse, [])
  | c :: rest =>
    if inComment then decimalDigits verbose (c != '\n') read rest
    else if c.isDigit then decimalDigits verbose false ((c.toNat - '0'.toNat) :: read) rest
    else if verbose && Text.isBlank c then decimalDigits verbose false read rest
    else if verbose && c = '#' then decimalDigits verbose true read rest
    else (read.reverse, c :: rest)

/-- A count of a repetition: blanks may stand around it in any pattern. -/
def decimal? (verbose : Bool) (text : List Char) : Option (Nat × List Char) :=
  let (digits, rest) := decimalDigits verbose false [] (text.dropWhile Text.isBlank)
  let value := digits.foldl (fun n d => n * 10 + d) 0
  if digits.isEmpty || 1 <<< 32 ≤ value then none
  else some (value, spaced verbose (rest.dropWhile Text.isBlank))

def hexDigit? (c : Char) : Option Nat :=
  if c.isDigit then some (c.toNat - '0'.toNat)
  else if 'a' ≤ c && c ≤ 'f' then some (c.toNat - 'a'.toNat + 10)
  else if 'A' ≤ c && c ≤ 'F' then some (c.toNat - 'A'.toNat + 10)
  else none

def hexDigits? (verbose : Bool) : Nat → Nat → List Char → Option (Nat × List Char)
  | 0, value, rest => some (value, rest)
  | n + 1, value, c :: rest => do
    hexDigits? verbose n (value * 16 + (← hexDigit? c)) (spaced verbose rest)
  | _ + 1, _, [] => none

/-- What stands before the next closing brace, blanks of verbose patterns
aside. -/
def braced (verbose inComment : Bool) (read : List Char) :
    List Char → Option (List Char × List Char)
  | [] => none
  | c :: rest =>
    if inComment then braced verbose (c != '\n') read rest
    else if verbose && Text.isBlank c then braced verbose false read rest
    else if verbose && c = '#' then braced verbose true read rest
    else if c = '\x7d' then some (read.reverse, rest)
    else braced verbose false (c :: read) rest

def character? (code : Nat) : Option Char :=
  if h : code.isValidChar then some (Char.ofNatAux code h) else none

/-- A character by its code, behind the letter that starts the escape. -/
def code? (verbose : Bool) (letter : Char) (text : List Char) : Option (Char × List Char) :=
  match text with
  | '\x7b' :: rest => do
    let (digits, rest) ← braced verbose false [] rest
    let values ← digits.mapM hexDigit?
    if values.isEmpty then none
    else do
      let c ← character? (values.foldl (fun n d => n * 16 + d) 0)
      return (c, spaced verbose rest)
  | _ => do
    let count := if letter = 'x' then 2 else if letter = 'u' then 4 else 8
    let (value, rest) ← hexDigits? verbose count 0 text
    return (← character? value, rest)

-- ---------------------------------------------------------------------------
-- Sets
-- ---------------------------------------------------------------------------

def asciiFolded (s : CharSet) : CharSet :=
  let letters : Text.Shift := ⟨0x41, 0x5A, 1, 32⟩
  .ofRanges (s.ranges ++ s.ranges.flatMap fun range =>
    letters.image range ++ letters.inverse.image range)

def folded (flags : Flags) (s : CharSet) : CharSet :=
  if !flags.insensitive then s
  else if flags.unicode then s.caseFolded
  else asciiFolded s

/-- Without Unicode no set may reach beyond ASCII, so that none has a
complement. -/
def complemented? (flags : Flags) (negated : Bool) (s : CharSet) : Option CharSet :=
  if !negated then some s
  else if flags.unicode then some s.complement
  else none

/-- The classes of one letter; the capital letter is the complement. -/
def shortClass? (flags : Flags) (letter : Char) : Option CharSet :=
  let members :=
    match letter.toLower with
    | 'd' => if flags.unicode then Text.Class.digit else Text.Class.asciiDigit
    | 's' => if flags.unicode then Text.Class.space else Text.Class.asciiSpace
    | _ => if flags.unicode then Text.Class.word else Text.Class.asciiWord
  complemented? flags letter.isUpper members

/-- Splits around the first place where two given characters stand. -/
def splitPair (first second : Char) : List Char → List Char → Option (List Char × List Char)
  | before, a :: b :: rest =>
    if a = first && b = second then some (before.reverse, rest)
    else splitPair first second (a :: before) (b :: rest)
  | _, _ => none

def splitAt? (mark : Char) (text : List Char) : Option (List Char × List Char) :=
  match text.dropWhile (· != mark) with
  | _ :: value => some (text.takeWhile (· != mark), value)
  | [] => none

/-- A class between braces: a name, or a property with its value. -/
def bracedClass? (name : List Char) : Option (CharSet × Bool) :=
  match splitPair '!' '=' [] name with
  | some (property, value) => (Text.Class.valued? property value).map (·, true)
  | none =>
    match (splitAt? ':' name).or (splitAt? '=' name) with
    | some (property, value) => (Text.Class.valued? property value).map (·, false)
    | none => (Text.Class.named? name).map (·, false)

/-- A Unicode class, behind its letter. -/
def unicodeClass? (flags : Flags) (negated : Bool) (text : List Char) :
    Option (CharSet × List Char) := do
  let (named, rest) ← match text with
    | '\x7b' :: rest => do
      let (name, rest) ← braced flags.verbose false [] rest
      some (bracedClass? name, rest)
    | '\\' :: _ => none
    | c :: rest => some ((Text.Class.named? [c]).map (·, false), spaced flags.verbose rest)
    | [] => none
  let (members, differs) ← named
  if flags.unicode then
    return (← complemented? flags (negated != differs) (folded flags members), rest)
  else none

-- ---------------------------------------------------------------------------
-- Escapes
-- ---------------------------------------------------------------------------

inductive Primitive where
  /-- A character; `isByte` tells that it was written by a code of two digits. -/
  | literal (c : Char) (isByte : Bool)
  | set (members : CharSet)
  | look (condition : Look)

def wordSet (flags : Flags) : CharSet :=
  if flags.unicode then Text.Class.word else Text.Class.asciiWord

def isBoundaryLetter (c : Char) : Bool := c.isAlpha || c = '-'

/-- A boundary may name its side in braces; braces around anything else are a
repetition. -/
def boundary? (flags : Flags) (text : List Char) : Option (Look × List Char) :=
  let word := wordSet flags
  match text with
  | '\x7b' :: rest =>
    match spaced flags.verbose rest with
    | [] => none
    | c :: _ =>
      if !isBoundaryLetter c then some (.boundary word, text)
      else do
        let (name, rest) ← braced flags.verbose false [] rest
        match String.ofList name with
        | "start" => some (.wordStart word, rest)
        | "end" => some (.wordEnd word, rest)
        | "start-half" => some (.wordStartHalf word, rest)
        | "end-half" => some (.wordEndHalf word, rest)
        | _ => none
  | _ => some (.boundary word, text)

def control? (c : Char) : Option Char :=
  match c with
  | 'a' => some (Char.ofNat 7)
  | 'f' => some (Char.ofNat 12)
  | 't' => some '\t'
  | 'n' => some '\n'
  | 'r' => some '\r'
  | 'v' => some (Char.ofNat 11)
  | _ => none

/-- Everything of ASCII may be escaped that could not mean something else. -/
def isEscapable (c : Char) : Bool :=
  c.toNat < 0x80 && !c.isAlphanum && c != '<' && c != '>'

/-- Behind a backslash. -/
def escape? (flags : Flags) (text : List Char) : Option (Primitive × List Char) :=
  match text with
  | [] => none
  | c :: rest =>
    if c = 'x' || c = 'u' || c = 'U' then do
      let after := spaced flags.verbose rest
      let braces := after.head? == some '\x7b'
      let (value, rest) ← code? flags.verbose c after
      return (.literal value (c = 'x' && !braces), rest)
    else if c = 'p' || c = 'P' then
      (unicodeClass? flags (c = 'P') (spaced flags.verbose rest)).map fun (members, rest) =>
        (.set members, rest)
    else if c.toLower = 'd' || c.toLower = 's' || c.toLower = 'w' then
      (shortClass? flags c).map fun members => (.set members, rest)
    else if isEscapable c then some (.literal c false, rest)
    else if c = 'A' then some (.look .textStart, rest)
    else if c = 'z' then some (.look .textEnd, rest)
    else if c = 'b' then
      (boundary? flags rest).map fun (condition, rest) => (.look condition, rest)
    else if c = 'B' then some (.look (.noBoundary (wordSet flags)), rest)
    else if c = '<' then some (.look (.wordStart (wordSet flags)), rest)
    else if c = '>' then some (.look (.wordEnd (wordSet flags)), rest)
    else (control? c).map fun c => (.literal c false, rest)

-- ---------------------------------------------------------------------------
-- Bracketed sets
-- ---------------------------------------------------------------------------

inductive SetOp where
  | intersection
  | difference
  | symmetricDifference

def SetOp.apply (op : SetOp) (a b : CharSet) : CharSet :=
  match op with
  | .intersection => a.intersect b
  | .difference => a.difference b
  | .symmetricDifference => a.symmetricDifference b

/-- A set and how deeply its brackets and operations nest. -/
structure Nested where
  members : CharSet
  depth : Nat

/-- A bracket being read: the left side of an operation, and what was listed
since. -/
structure Bracket where
  left : Option (Nested × SetOp)
  items : List Nested

/-- Puts the listed items together: two and more make one more level. -/
def Bracket.listed (b : Bracket) : Nested :=
  let depth := (b.items.map Nested.depth).foldl max 0
  ⟨.unionAll (b.items.map Nested.members), if b.items.length < 2 then depth else depth + 1⟩

/-- Operations are all of one rank and go from left to right. -/
def Bracket.value (flags : Flags) (b : Bracket) : Nested :=
  match b.left with
  | none => b.listed
  | some (left, op) =>
    ⟨op.apply (folded flags left.members) (folded flags b.listed.members),
      max left.depth b.listed.depth + 1⟩

def Bracket.add (b : Bracket) (members : CharSet) : Bracket :=
  { b with items := ⟨members, 0⟩ :: b.items }

def Bracket.operate (flags : Flags) (op : SetOp) (b : Bracket) : Bracket :=
  ⟨some (b.value flags, op), []⟩

/-- A literal inside brackets; without Unicode it has to be ASCII. -/
def literalIn? (flags : Flags) (c : Char) : Option Char :=
  if flags.unicode || c.toNat < 0x80 then some c else none

def primitiveIn? (flags : Flags) : List Char → Option (Primitive × List Char)
  | '\\' :: rest => escape? flags rest
  | c :: rest => some (.literal c false, rest)
  | [] => none

/-- One item: a character, a range, or a class. -/
def rangeIn? (flags : Flags) (text : List Char) : Option (CharSet × List Char) := do
  let (first, rest) ← primitiveIn? flags text
  let rest := spaced flags.verbose rest
  let next ← rest.head?
  let after := peek flags.verbose rest
  if next != '-' || after == some ']' || after == some '-' then
    match first with
    | .literal c _ => return (.single (← literalIn? flags c), rest)
    | .set members => return (members, rest)
    | .look _ => none
  else do
    let (second, rest) ← primitiveIn? flags (spaced flags.verbose rest.tail)
    match first, second with
    | .literal a _, .literal b _ =>
      let a ← literalIn? flags a
      let b ← literalIn? flags b
      if a ≤ b then return (.range a.toNat b.toNat, rest) else none
    | _, _ => none

/-- The named ASCII classes, behind their opening bracket. Anything else opens
a bracket of its own. -/
def asciiClass? (flags : Flags) (text : List Char) : Option (Option CharSet × List Char) := do
  let inner ← match text with
    | ':' :: rest => some rest
    | _ => none
  let negated := inner.head? == some '^'
  let named := if negated then inner.tail else inner
  let name := named.takeWhile (· != ':')
  match named.dropWhile (· != ':') with
  | ':' :: ']' :: rest => do
    let members ← Text.Class.ascii? (String.ofList name)
    return (complemented? flags negated (folded flags members), rest)
  | _ => none

/-- Dashes right behind the opening are literal. -/
def leadingDashes (verbose : Bool) : Nat → List Char → Nat × List Char
  | 0, text => (0, text)
  | fuel + 1, '-' :: rest =>
    let (n, rest) := leadingDashes verbose fuel (spaced verbose rest)
    (n + 1, rest)
  | _ + 1, text => (0, text)

/-- Behind an opening bracket: is the set negated, and what is listed before
anything can close it? -/
def opening (flags : Flags) (text : List Char) : Bool × Bracket × List Char :=
  let text := spaced flags.verbose text
  let negated := text.head? == some '^'
  let text := if negated then spaced flags.verbose text.tail else text
  let (dashes, text) := leadingDashes flags.verbose text.length text
  let listed : Bracket := ⟨none, List.replicate dashes ⟨.single '-', 0⟩⟩
  match dashes, text with
  | 0, ']' :: rest => (negated, listed.add (.single ']'), spaced flags.verbose rest)
  | _, text => (negated, listed, text)

/-- Reads to the end of a bracketed set, item by item. Each step takes a
character at least, so that the length of the text is fuel enough. -/
def bracket? (flags : Flags) :
    Nat → Bool → Bracket → List (Bool × Bracket) → List Char → Option (Nested × List Char)
  | 0, _, _, _, _ => none
  | fuel + 1, negated, current, outer, text =>
    match spaced flags.verbose text with
    | [] => none
    | '[' :: rest =>
      match asciiClass? flags rest with
      | some (none, _) => none
      | some (some members, rest) =>
        bracket? flags fuel negated (current.add members) outer rest
      | none =>
        let (inner, listed, rest) := opening flags rest
        bracket? flags fuel inner listed ((negated, current) :: outer) rest
    | ']' :: rest => do
      let value := current.value flags
      let members ← complemented? flags negated (folded flags value.members)
      let closed : Nested := ⟨members, value.depth + 1⟩
      match outer with
      | [] => return (closed, rest)
      | (negated, around) :: outer =>
        bracket? flags fuel negated { around with items := closed :: around.items } outer rest
    | '&' :: '&' :: rest =>
      bracket? flags fuel negated (current.operate flags .intersection) outer rest
    | '-' :: '-' :: rest =>
      bracket? flags fuel negated (current.operate flags .difference) outer rest
    | '~' :: '~' :: rest =>
      bracket? flags fuel negated (current.operate flags .symmetricDifference) outer rest
    | text => do
      let (members, rest) ← rangeIn? flags text
      bracket? flags fuel negated (current.add members) outer rest

-- ---------------------------------------------------------------------------
-- Flags
-- ---------------------------------------------------------------------------

def Flags.set? (flags : Flags) (letter : Char) (on : Bool) : Option Flags :=
  match letter with
  | 'i' => some { flags with insensitive := on }
  | 'm' => some { flags with multiLine := on }
  | 's' => some { flags with dotAll := on }
  | 'R' => some { flags with anyNewline := on }
  | 'u' => some { flags with unicode := on }
  | 'x' => some { flags with verbose := on }
  | 'U' => some flags
  | _ => none

/-- Flags up to a colon or a closing parenthesis, which comes back with them
and with the question whether there were any. No letter may stand twice; one
dash, not at the end, turns off what follows. -/
def flagLetters? (flags : Flags) (seen : List Char) (on : Bool) :
    List Char → Option (Flags × Bool × Char × List Char)
  | [] => none
  | c :: rest =>
    if c = ':' || c = ')' then
      if seen.head? == some '-' then none else some (flags, !seen.isEmpty, c, rest)
    else if seen.contains c then none
    else if c = '-' then flagLetters? flags (c :: seen) false rest
    else do flagLetters? (← Flags.set? flags c on) (c :: seen) on rest

-- ---------------------------------------------------------------------------
-- Expressions
-- ---------------------------------------------------------------------------

/-- A group being read: its alternatives and the items of the current one, both
in reverse, and what was in force around it. -/
structure Frame where
  alternatives : List Expr
  items : List Expr
  flags : Flags
  captures : Bool

structure State where
  outer : List Frame
  alternatives : List Expr
  items : List Expr
  flags : Flags
  names : List String
  rest : List Char

def concat (items : List Expr) : Expr :=
  match items.reverse with
  | [] => .empty
  | [item] => item
  | items => .concat items

def State.expr (s : State) : Expr :=
  match s.alternatives with
  | [] => concat s.items
  | alternatives => .choice (concat s.items :: alternatives).reverse

def State.push (s : State) (item : Expr) (rest : List Char) : State :=
  { s with items := item :: s.items, rest := rest }

def State.enter (s : State) (flags : Flags) (captures : Bool) (rest : List Char) : State :=
  { s with
    outer := ⟨s.alternatives, s.items, s.flags, captures⟩ :: s.outer
    alternatives := []
    items := []
    flags := flags
    rest := rest }

def isNameChar (isFirst : Bool) (c : Char) : Bool :=
  c = '_' || Text.Property.alphabetic.contains c ||
    (!isFirst && (c = '.' || c = '[' || c = ']' || Text.Category.number.contains c))

/-- The name of a group, behind its opening. -/
def groupName? (text : List Char) : Option (String × List Char) :=
  let name := text.takeWhile (· != '>')
  match name, text.dropWhile (· != '>') with
  | first :: others, _ :: rest =>
    if isNameChar true first && others.all (isNameChar false) then
      some (String.ofList name, rest)
    else none
  | _, _ => none

def namedGroup? (s : State) (text : List Char) : Option State := do
  let (name, rest) ← groupName? text
  if s.names.contains name then none
  else some ({ s with names := name :: s.names }.enter s.flags true rest)

/-- Behind an opening parenthesis. -/
def group? (s : State) (text : List Char) : Option State :=
  match spaced s.flags.verbose text with
  | '?' :: '=' :: _ => none
  | '?' :: '!' :: _ => none
  | '?' :: '<' :: '=' :: _ => none
  | '?' :: '<' :: '!' :: _ => none
  | '?' :: 'P' :: '<' :: rest => namedGroup? s rest
  | '?' :: '<' :: rest => namedGroup? s rest
  | '?' :: rest => do
    let (flags, any, stop, rest) ← flagLetters? s.flags [] true rest
    if stop = ':' then return s.enter flags false rest
    else if any then return { s.push .flags rest with flags := flags }
    else none
  | rest => some (s.enter s.flags true rest)

/-- Behind a closing parenthesis. -/
def close? (s : State) (rest : List Char) : Option State :=
  match s.outer with
  | [] => none
  | frame :: outer => some { s with
      outer := outer
      alternatives := frame.alternatives
      items := .group frame.captures s.expr :: frame.items
      flags := frame.flags
      rest := rest }

/-- Repeats the last item; a trailing question mark asks for few copies. -/
def repeat? (s : State) (least : Nat) (most : Option Nat) (rest : List Char) : Option State :=
  match s.items with
  | [] => none
  | .flags :: _ => none
  | item :: items =>
    let rest := if rest.head? == some '?' then rest.tail else rest
    some { s with items := .repeated least most item :: items, rest := rest }

/-- Behind an opening brace. -/
def counted? (s : State) (text : List Char) : Option State := do
  let verbose := s.flags.verbose
  let (least, rest) ← decimal? verbose (spaced verbose text)
  let (most, rest) ← match rest with
    | ',' :: rest =>
      match spaced verbose rest with
      | '\x7d' :: rest => some (none, '\x7d' :: rest)
      | rest => (decimal? verbose rest).map fun (most, rest) => (some most, rest)
    | rest => some (some least, rest)
  match rest with
  | '\x7d' :: rest =>
    if most.any (· < least) then none else repeat? s least most (spaced verbose rest)
  | _ => none

/-- A literal outside brackets. Without Unicode, a code of two digits beyond
ASCII is a byte and no character. -/
def literal? (flags : Flags) (c : Char) (isByte : Bool) : Option Expr :=
  if !flags.unicode && isByte && 0x7F < c.toNat then none
  else
    let members := folded flags (.single c)
    if members = .single c then some (.literal c) else some (.set members 0)

/-- Any character, or any of the line; without Unicode it would be a byte. -/
def dot? (flags : Flags) : Option Expr :=
  if !flags.unicode then none
  else if flags.dotAll then some (.set .all 0)
  else if flags.anyNewline then
    some (.set (CharSet.complement ⟨[(0x0A, 0x0A), (0x0D, 0x0D)]⟩) 0)
  else some (.set (CharSet.complement (.single '\n')) 0)

def lineStart (flags : Flags) : Look :=
  if !flags.multiLine then .textStart
  else if flags.anyNewline then .anyLineStart else .lineStart

def lineEnd (flags : Flags) : Look :=
  if !flags.multiLine then .textEnd
  else if flags.anyNewline then .anyLineEnd else .lineEnd

/-- Takes what starts with a character. -/
def step? (s : State) (c : Char) (rest : List Char) : Option State :=
  match c with
  | '(' => group? s rest
  | ')' => close? s rest
  | '|' => some { s with
      alternatives := concat s.items :: s.alternatives, items := [], rest := rest }
  | '[' => do
    let (negated, listed, rest) := opening s.flags rest
    let (members, rest) ← bracket? s.flags (rest.length + 1) negated listed [] rest
    return s.push (.set members.members members.depth) rest
  | '?' => repeat? s 0 (some 1) rest
  | '*' => repeat? s 0 none rest
  | '+' => repeat? s 1 none rest
  | '\x7b' => counted? s rest
  | '.' => (dot? s.flags).map (s.push · rest)
  | '^' => some (s.push (.look (lineStart s.flags)) rest)
  | '$' => some (s.push (.look (lineEnd s.flags)) rest)
  | '\\' => do
    let (primitive, rest) ← escape? s.flags rest
    match primitive with
    | .literal c isByte => return s.push (← literal? s.flags c isByte) rest
    | .set members => return s.push (.set members 0) rest
    | .look condition => return s.push (.look condition) rest
  | c => (literal? s.flags c false).map (s.push · rest)

/-- Reads on to the end. Each step takes a character at least. -/
def run? : Nat → State → Option State
  | 0, s => if s.rest.isEmpty then some s else none
  | fuel + 1, s =>
    match spaced s.flags.verbose s.rest with
    | [] => some s
    | c :: rest => do run? fuel (← step? s c rest)

end Reader

/-- Reads a pattern, which all groups have to be closed in. -/
def Expr.ofText? (insensitive : Bool) (text : String) : Option Expr := do
  let chars := text.toList
  let s ← Reader.run? chars.length
    ⟨[], [], [], Reader.initialFlags insensitive, [], chars⟩
  if s.outer.isEmpty then some s.expr else none

def ofText? (insensitive : Bool) (text : String) : Option Pattern :=
  (Expr.ofText? insensitive text).bind Expr.toPattern?

end QueryGuard.Pattern
