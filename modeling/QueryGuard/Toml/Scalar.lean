import QueryGuard.Number
import QueryGuard.Time.DateTime
import QueryGuard.Toml

/-!
# Scalars of TOML

Strings in their four forms, and the words that are numbers, truth values or
date-times.
-/

namespace QueryGuard.Toml

-- ---------------------------------------------------------------------------
-- Strings
-- ---------------------------------------------------------------------------

/-- Control characters other than the tab stand nowhere. -/
def isControl (c : Char) : Bool := (c.toNat < 0x20 && c != '\t') || c.toNat == 0x7F

def isBlank (c : Char) : Bool := c = ' ' || c = '\t'

/-- A line feed, or a carriage return with one. -/
def newline? : List Char → Option (List Char)
  | '\n' :: rest => some rest
  | '\r' :: '\n' :: rest => some rest
  | _ => none

/-- Between single quotes characters stand for themselves. -/
def literalString (read : List Char) : List Char → Option (String × List Char)
  | [] => none
  | c :: rest =>
    if c = '\'' then some (String.ofList read.reverse, rest)
    else if isControl c then none
    else literalString (c :: read) rest

/-- Reads to three quotes; one or two more directly before them belong to the
text. -/
def closing? (quote : Char) (text : List Char) : Option (List Char × List Char) :=
  let run := (text.takeWhile (· == quote)).take 5
  if run.length < 3 then none
  else some (run.drop 3, text.drop run.length)

def literalLines (read : List Char) : List Char → Option (String × List Char)
  | [] => none
  | c :: rest =>
    match closing? '\'' (c :: rest) with
    | some (quotes, rest) => some (String.ofList (read.reverse ++ quotes), rest)
    | none =>
      if c = '\n' || (c = '\r' && rest.head? == some '\n') || !isControl c then
        literalLines (c :: read) rest
      else none

def hexDigit? (c : Char) : Option Nat :=
  if c.isDigit then some (c.toNat - '0'.toNat)
  else if 'a' ≤ c && c ≤ 'f' then some (c.toNat - 'a'.toNat + 10)
  else if 'A' ≤ c && c ≤ 'F' then some (c.toNat - 'A'.toNat + 10)
  else none

def scalar? (code : Nat) : Option Char :=
  if h : code.isValidChar then some (Char.ofNatAux code h) else none

def simpleEscape? (c : Char) : Option Char :=
  match c with
  | 'b' => some (Char.ofNat 8)
  | 't' => some '\t'
  | 'n' => some '\n'
  | 'f' => some (Char.ofNat 12)
  | 'r' => some '\r'
  | 'e' => some (Char.ofNat 27)
  | '"' => some '"'
  | '\\' => some '\\'
  | _ => none

def codeLength? (c : Char) : Option Nat :=
  match c with
  | 'x' => some 2
  | 'u' => some 4
  | 'U' => some 8
  | _ => none

/-- What the reader of a quoted text is inside of. -/
inductive Quoting where
  | text
  | escape
  /-- Digits of a code still to come, and their value so far. -/
  | code (left value : Nat)
  /-- Behind a backslash at the end of a line; true once the line has ended. -/
  | lineEnd (ended : Bool)

/-- Between double quotes. `lines` tells that the text may span lines. -/
def quotedText (lines : Bool) : Quoting → List Char → List Char → Option (String × List Char)
  | _, _, [] => none
  | .text, read, c :: rest =>
    if c = '"' && !lines then some (String.ofList read.reverse, rest)
    else
      match if lines then closing? '"' (c :: rest) else none with
      | some (quotes, rest) => some (String.ofList (read.reverse ++ quotes), rest)
      | none =>
        if c = '\\' then quotedText lines .escape read rest
        else if !isControl c ||
            (lines && (c = '\n' || (c = '\r' && rest.head? == some '\n'))) then
          quotedText lines .text (c :: read) rest
        else none
  | .escape, read, c :: rest =>
    match simpleEscape? c, codeLength? c with
    | some plain, _ => quotedText lines .text (plain :: read) rest
    | none, some length => quotedText lines (.code length 0) read rest
    | none, none =>
      if lines && (isBlank c || c = '\n' || c = '\r') then
        quotedText lines (.lineEnd (c = '\n')) read rest
      else none
  | .code left value, read, c :: rest =>
    match hexDigit? c with
    | none => none
    | some digit =>
      let value := value * 16 + digit
      if 1 < left then quotedText lines (.code (left - 1) value) read rest
      else
        match scalar? value with
        | some plain => quotedText lines .text (plain :: read) rest
        | none => none
  | .lineEnd ended, read, c :: rest =>
    if c = '\n' then quotedText lines (.lineEnd true) read rest
    else if isBlank c || c = '\r' then quotedText lines (.lineEnd ended) read rest
    else if !ended then none
    else
      match closing? '"' (c :: rest) with
      | some (quotes, rest) => some (String.ofList (read.reverse ++ quotes), rest)
      | none =>
        if c = '\\' then quotedText lines .escape read rest
        else if isControl c then none
        else quotedText lines .text (c :: read) rest

/-- A line feed directly behind the three opening quotes does not count. -/
def afterOpening (text : List Char) : List Char := (newline? text).getD text

/-- A string that stays on its line, which keys may be too. -/
def lineString? : List Char → Option (String × List Char)
  | '"' :: rest => quotedText false .text [] rest
  | '\'' :: rest => literalString [] rest
  | _ => none

def string? : List Char → Option (String × List Char)
  | '"' :: '"' :: '"' :: rest => quotedText true .text [] (afterOpening rest)
  | '\'' :: '\'' :: '\'' :: rest => literalLines [] (afterOpening rest)
  | text => lineString? text

-- ---------------------------------------------------------------------------
-- Numbers
-- ---------------------------------------------------------------------------

/-- Digits with single low lines between them. -/
def digits? (value? : Char → Option Nat) (word : List Char) : Option (List Nat) :=
  let groups := word.splitOn '_'
  if groups.any List.isEmpty then none
  else groups.flatten.mapM value?

def digitIn (base : Nat) (c : Char) : Option Nat := (hexDigit? c).filter (· < base)

def number (base : Nat) (digits : List Nat) : Nat := digits.foldl (fun n d => n * base + d) 0

def decimalDigits? (word : List Char) : Option (List Nat) := digits? (digitIn 10) word

/-- No leading zeros. -/
def whole? (word : List Char) : Option (List Nat) := do
  let digits ← decimalDigits? word
  if digits.head? == some 0 && digits.length != 1 then none else some digits

def sign (word : List Char) : Bool × List Char :=
  match word with
  | '-' :: rest => (true, rest)
  | '+' :: rest => (false, rest)
  | word => (false, word)

def integer? (word : List Char) : Option Int :=
  match word with
  | '0' :: 'x' :: rest => (digits? (digitIn 16) rest).map fun ds => number 16 ds
  | '0' :: 'o' :: rest => (digits? (digitIn 8) rest).map fun ds => number 8 ds
  | '0' :: 'b' :: rest => (digits? (digitIn 2) rest).map fun ds => number 2 ds
  | word =>
    let (negative, word) := sign word
    (whole? word).map fun ds => if negative then -(number 10 ds : Int) else number 10 ds

def isExponentMark (c : Char) : Bool := c = 'e' || c = 'E'

def float? (word : List Char) : Option (Option Double) := do
  let (negative, word) := sign word
  if word = "inf".toList || word = "nan".toList then some none
  else do
    let mantissa := word.takeWhile fun c => !isExponentMark c
    let exponent ← match word.dropWhile fun c => !isExponentMark c with
      | [] => some 0
      | _ :: power => do
        let (belowZero, power) := sign power
        pure <| Double.boundedExponent belowZero (← decimalDigits? power)
    let whole ← whole? (mantissa.takeWhile (· != '.'))
    let part ← match mantissa.dropWhile (· != '.') with
      | [] => if mantissa.length = word.length then none else some []
      | _ :: part => decimalDigits? part
    return Double.ofDecimal? negative whole part exponent

-- ---------------------------------------------------------------------------
-- Date-times
-- ---------------------------------------------------------------------------

/-- Reads two digits that stay below a limit. -/
def pair? (limit : Nat) (text : List Char) : Option (List Char) :=
  match DateTime.digits? 2 0 text with
  | some (value, rest) => if value < limit then some rest else none
  | none => none

/-- Seconds may be left out, and may have a fraction. -/
def seconds? : List Char → Option (List Char)
  | ':' :: rest => do
    match ← pair? 61 rest with
    | '.' :: rest =>
      if rest.head?.any Char.isDigit then some (rest.dropWhile Char.isDigit) else none
    | rest => some rest
  | rest => some rest

/-- Reads hours and minutes. -/
def clock? (text : List Char) : Option (List Char) := do
  pair? 60 (← DateTime.mark? ':' (← pair? 24 text))

def time? (text : List Char) : Option (List Char) := do
  seconds? (← clock? text)

def isOffset (text : List Char) : Bool :=
  match text with
  | [] => true
  | ['Z'] => true
  | ['z'] => true
  | '+' :: rest => clock? rest == some []
  | '-' :: rest => clock? rest == some []
  | _ => false

/-- Reads a day of the calendar. -/
def date? (text : List Char) : Option (List Char) := do
  let (year, rest) ← DateTime.digits? 4 0 text
  let (month, rest) ← DateTime.digits? 2 0 (← DateTime.mark? '-' rest)
  let (day, rest) ← DateTime.digits? 2 0 (← DateTime.mark? '-' rest)
  if Date.isValid ⟨year, month, day⟩ then some rest else none

/-- A date, a time, or both around a letter or a blank. -/
def isDateTime (text : List Char) : Bool :=
  time? text == some [] ||
    (match date? text with
    | some [] => true
    | some (c :: rest) =>
      (c = 'T' || c = 't' || c = ' ') && (time? rest).any isOffset
    | none => false)

-- ---------------------------------------------------------------------------
-- Words
-- ---------------------------------------------------------------------------

def isWordChar (c : Char) : Bool :=
  c.isAlphanum || c = '_' || c = '-' || c = '+' || c = '.' || c = ':'

def ofWord? (word : List Char) : Option Toml :=
  if word = "true".toList then some (.bool true)
  else if word = "false".toList then some (.bool false)
  else if isDateTime word then some .dateTime
  else
    match integer? word with
    | some value => some (.integer value)
    | none => (float? word).map .float

/-- A word without quotes. A date may go on behind a blank. -/
def word? (text : List Char) : Option (Toml × List Char) :=
  let word := text.takeWhile isWordChar
  let rest := text.dropWhile isWordChar
  let time := rest.tail.takeWhile isWordChar
  if date? word == some [] && rest.head? == some ' ' && !time.isEmpty then
    (ofWord? (word ++ ' ' :: time)).map (·, rest.tail.dropWhile isWordChar)
  else (ofWord? word).map (·, rest)

end QueryGuard.Toml
