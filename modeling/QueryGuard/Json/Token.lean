import QueryGuard.Json

/-!
# Words of JSON text

Text is cut into words by a machine that takes one character at a time.
-/

namespace QueryGuard.Json

inductive Token where
  | objectOpens
  | objectCloses
  | arrayOpens
  | arrayCloses
  | colon
  | comma
  | string (value : String)
  /-- A number, or one of the words `null`, `true` and `false`. -/
  | bare (value : Json)

/-- What the machine is inside of. Read characters stand in reverse. -/
inductive Token.Scan where
  | between
  | bare (read : List Char)
  | string (read : List Char)
  | escape (read : List Char)
  /-- Hexadecimal digits of an escape: their number so far and their value. -/
  | code (read : List Char) (count value : Nat)
  /-- Behind a leading surrogate its trailing one has to follow. -/
  | pairSlash (read : List Char) (leading : Nat)
  | pairMark (read : List Char) (leading : Nat)
  | pairCode (read : List Char) (leading count value : Nat)

namespace Token

def isBlank (c : Char) : Bool :=
  c = ' ' || c = '\n' || c = '\t' || c = '\r'

def hexValue? (c : Char) : Option Nat :=
  if c.isDigit then some (c.toNat - '0'.toNat)
  else if 'a' ≤ c && c ≤ 'f' then some (c.toNat - 'a'.toNat + 10)
  else if 'A' ≤ c && c ≤ 'F' then some (c.toNat - 'A'.toNat + 10)
  else none

def structural? (c : Char) : Option Token :=
  if c = '\x7b' then some .objectOpens
  else if c = '\x7d' then some .objectCloses
  else if c = '[' then some .arrayOpens
  else if c = ']' then some .arrayCloses
  else if c = ':' then some .colon
  else if c = ',' then some .comma
  else none

def ofBare? (read : List Char) : Option Token :=
  let word := read.reverse
  if word = "null".toList then some (.bare .null)
  else if word = "true".toList then some (.bare (.bool true))
  else if word = "false".toList then some (.bare (.bool false))
  else (Number.ofText? word).map (.bare <| .number ·)

def simpleEscape? (c : Char) : Option Char :=
  if c = '"' || c = '\\' || c = '/' then some c
  else if c = 'n' then some '\n'
  else if c = 't' then some '\t'
  else if c = 'r' then some '\r'
  else if c = 'b' then some (Char.ofNat 8)
  else if c = 'f' then some (Char.ofNat 12)
  else none

def isLeading (code : Nat) : Bool := 0xD800 ≤ code && code < 0xDC00

def isTrailing (code : Nat) : Bool := 0xDC00 ≤ code && code < 0xE000

/-- One character outside words. -/
def start (c : Char) : Option (Scan × List Token) :=
  if isBlank c then some (.between, [])
  else if c = '"' then some (.string [], [])
  else match structural? c with
    | some token => some (.between, [token])
    | none => some (.bare [c], [])

/-- One character: the new state and the words that it completes. -/
def step (scan : Scan) (c : Char) : Option (Scan × List Token) :=
  match scan with
  | .between => start c
  | .bare read =>
    if isBlank c || c = '"' || (structural? c).isSome then do
      let token ← ofBare? read
      let (next, more) ← start c
      return (next, token :: more)
    else some (.bare (c :: read), [])
  | .string read =>
    if c = '"' then some (.between, [.string (String.ofList read.reverse)])
    else if c = '\\' then some (.escape read, [])
    else if c < ' ' then none
    else some (.string (c :: read), [])
  | .escape read =>
    if c = 'u' then some (.code read 0 0, [])
    else (simpleEscape? c).map fun plain => (.string (plain :: read), [])
  | .code read count value => do
    let value := value * 16 + (← hexValue? c)
    if count < 3 then return (.code read (count + 1) value, [])
    else if isLeading value then return (.pairSlash read value, [])
    else if isTrailing value then none
    else return (.string (Char.ofNat value :: read), [])
  | .pairSlash read leading => if c = '\\' then some (.pairMark read leading, []) else none
  | .pairMark read leading => if c = 'u' then some (.pairCode read leading 0 0, []) else none
  | .pairCode read leading count value => do
    let value := value * 16 + (← hexValue? c)
    if count < 3 then return (.pairCode read leading (count + 1) value, [])
    else if isTrailing value then
      let code := 0x10000 + (leading - 0xD800) * 0x400 + (value - 0xDC00)
      return (.string (Char.ofNat code :: read), [])
    else none

def finish : Scan → Option (List Token)
  | .between => some []
  | .bare read => (ofBare? read).map ([·])
  | _ => none

/-- Words in reverse, for a text met in the given state. -/
def scanAll : List Char → Scan → List Token → Option (List Token)
  | [], scan, words => do return (← finish scan) ++ words
  | c :: rest, scan, words => do
    let (next, more) ← step scan c
    scanAll rest next (more.reverse ++ words)

def ofText? (text : String) : Option (List Token) :=
  (scanAll text.toList .between []).map List.reverse

end Token

end QueryGuard.Json
