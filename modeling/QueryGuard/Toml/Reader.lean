import QueryGuard.Toml.Scalar

/-!
# Reading TOML documents
-/

namespace QueryGuard.Toml

namespace Reader

-- ---------------------------------------------------------------------------
-- Blanks
-- ---------------------------------------------------------------------------

def blanks (text : List Char) : List Char := text.dropWhile isBlank

/-- Skips a comment up to the end of its line. -/
def comment? : List Char → Option (List Char)
  | [] => some []
  | c :: rest =>
    if c = '\n' then some ('\n' :: rest)
    else if c = '\r' && rest.head? == some '\n' then some (c :: rest)
    else if isControl c then none
    else comment? rest

/-- Blanks and a comment perhaps, then the end of the line. -/
def endOfLine? (text : List Char) : Option (List Char) := do
  let rest ← match blanks text with
    | '#' :: rest => comment? rest
    | rest => some rest
  if rest.isEmpty then some [] else newline? rest

/-- Skips blanks, comments and line ends. -/
def lines? (inComment : Bool) : List Char → Option (List Char)
  | [] => some []
  | c :: rest =>
    if c = '\n' then lines? false rest
    else if c = '\r' && rest.head? == some '\n' then lines? inComment rest
    else if inComment then (if isControl c then none else lines? true rest)
    else if isBlank c then lines? false rest
    else if c = '#' then lines? true rest
    else some (c :: rest)

-- ---------------------------------------------------------------------------
-- Keys
-- ---------------------------------------------------------------------------

def isBareKey (c : Char) : Bool := c.isAlphanum || c = '_' || c = '-'

def simpleKey? (text : List Char) : Option (String × List Char) :=
  match text.takeWhile isBareKey with
  | [] => lineString? text
  | key => some (String.ofList key, text.dropWhile isBareKey)

/-- Keys with dots in between, and blanks around the dots. -/
def key? : Nat → List Char → Option (List String × List Char)
  | 0, _ => none
  | fuel + 1, text => do
    let (first, rest) ← simpleKey? (blanks text)
    match blanks rest with
    | '.' :: rest => do
      let (path, rest) ← key? fuel rest
      return (first :: path, rest)
    | rest => return ([first], rest)

-- ---------------------------------------------------------------------------
-- Values
-- ---------------------------------------------------------------------------

/-- How deep arrays and tables on a line may nest. -/
def depthLimit : Nat := 80

mutual
/-- Reads a value with so many levels of nesting left. -/
def value? : Nat → Nat → List Char → Option (Toml × List Char)
  | 0, _, _ => none
  | fuel + 1, depth, text =>
    match text with
    | '[' :: rest => do
      if depth = 0 then none
      else do
        let (items, rest) ← items? fuel (depth - 1) rest
        return (.array items, rest)
    | '\x7b' :: rest => do
      if depth = 0 then none
      else do
        let (members, rest) ← members? fuel (depth - 1) [] rest
        return (.table (Entry.toTomlMembers members), rest)
    | '"' :: _ => (string? text).map fun (value, rest) => (.string value, rest)
    | '\'' :: _ => (string? text).map fun (value, rest) => (.string value, rest)
    | _ => word? text
/-- Items up to the closing bracket; a comma may stand before it. -/
def items? : Nat → Nat → List Char → Option (List Toml × List Char)
  | 0, _, _ => none
  | fuel + 1, depth, text => do
    match ← lines? false text with
    | ']' :: rest => return ([], rest)
    | rest => do
      let (item, rest) ← value? fuel depth rest
      match ← lines? false rest with
      | ',' :: rest => do
        let (items, rest) ← items? fuel depth rest
        return (item :: items, rest)
      | ']' :: rest => return ([item], rest)
      | _ => none
/-- Members up to the closing brace; a comma may stand before it. -/
def members? : Nat → Nat → Members Entry → List Char → Option (Members Entry × List Char)
  | 0, _, _, _ => none
  | fuel + 1, depth, members, text => do
    match ← lines? false text with
    | '\x7d' :: rest => return (members, rest)
    | rest => do
      let (path, rest) ← key? fuel rest
      match rest with
      | '=' :: rest => do
        let (value, rest) ← value? fuel depth (blanks rest)
        let members ← Entry.assign value path members
        match ← lines? false rest with
        | ',' :: rest => members? fuel depth members rest
        | '\x7d' :: rest => return (members, rest)
        | _ => none
      | _ => none
end

-- ---------------------------------------------------------------------------
-- Documents
-- ---------------------------------------------------------------------------

/-- The tables so far, and the header that the next lines belong to. -/
structure State where
  root : Members Entry
  header : List String

/-- Writes what a header asks for into the table around it. -/
def atHeader? (state : State) (path : List String)
    (write : String → Members Entry → Option (Members Entry)) : Option State := do
  let key ← path.getLast?
  let root ← Entry.within (write key) path.dropLast state.root
  return ⟨root, path⟩

/-- One line that is not blank: a header or a key with its value. -/
def statement? (fuel : Nat) (state : State) (text : List Char) : Option (State × List Char) :=
  match text with
  | '[' :: '[' :: rest => do
    let (path, rest) ← key? fuel rest
    match rest with
    | ']' :: ']' :: rest => return (← atHeader? state path Entry.appendTable, rest)
    | _ => none
  | '[' :: rest => do
    let (path, rest) ← key? fuel rest
    match rest with
    | ']' :: rest => return (← atHeader? state path Entry.openTable, rest)
    | _ => none
  | _ => do
    let (path, rest) ← key? fuel text
    match rest with
    | '=' :: rest => do
      let (value, rest) ← value? fuel depthLimit (blanks rest)
      let root ← Entry.within (Entry.assign value path) state.header state.root
      return ({ state with root := root }, rest)
    | _ => none

/-- Each line takes a character at least, so that the length of the text is
fuel enough; so it is for the nesting inside a line. -/
def document? (size : Nat) : Nat → State → List Char → Option State
  | 0, _, _ => none
  | fuel + 1, state, text => do
    match ← lines? false text with
    | [] => return state
    | text => do
      let (state, rest) ← statement? size state text
      document? size fuel state (← endOfLine? rest)

end Reader

/-- Reads a document. A byte order mark may come first. -/
def ofText? (text : String) : Option Toml := do
  let chars := match text.toList with
    | '\ufeff' :: rest => rest
    | chars => chars
  let size := chars.length + 1
  let state ← Reader.document? size size ⟨[], []⟩ chars
  return .table (Entry.toTomlMembers state.root)

end QueryGuard.Toml
