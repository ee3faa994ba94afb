import QueryGuard.Json.Token

/-!
# Reading JSON text

Words are taken one at a time against a stack of the arrays and objects that
are still open. A repeated name keeps its first place and its last value.
-/

namespace QueryGuard.Json

namespace Reader

/-- How many arrays and objects may stand open at a time. -/
def depthLimit : Nat := 127

inductive Frame where
  | array (read : List Json)
  /-- The members so far, and the name whose value is being read. -/
  | object (read : Members Json) (name : String)

inductive Expected where
  | value
  | valueOrClose
  | name
  | nameOrClose
  | colon
  | commaOrClose
  | nothing

structure State where
  frames : List Frame
  expected : Expected
  result : Json

def initial : State := ⟨[], .value, .null⟩

/-- Hands a finished value to the innermost open array or object. -/
def complete (value : Json) : List Frame → State
  | [] => ⟨[], .nothing, value⟩
  | .array read :: outer => ⟨.array (value :: read) :: outer, .commaOrClose, .null⟩
  | .object read name :: outer =>
    ⟨.object (read.put name value) name :: outer, .commaOrClose, .null⟩

def opened (frame : Frame) (expected : Expected) (frames : List Frame) : Option State :=
  if frames.length < depthLimit then some ⟨frame :: frames, expected, .null⟩ else none

def value (token : Token) (frames : List Frame) : Option State :=
  match token with
  | .arrayOpens => opened (.array []) .valueOrClose frames
  | .objectOpens => opened (.object [] "") .nameOrClose frames
  | .string text => some (complete (.string text) frames)
  | .bare value => some (complete value frames)
  | _ => none

def close (token : Token) (frames : List Frame) : Option State :=
  match token, frames with
  | .arrayCloses, .array read :: outer => some (complete (.array read.reverse) outer)
  | .objectCloses, .object read _ :: outer => some (complete (.object read) outer)
  | _, _ => none

def name (token : Token) (frames : List Frame) : Option State :=
  match token, frames with
  | .string text, .object read _ :: outer => some ⟨.object read text :: outer, .colon, .null⟩
  | _, _ => none

def step (state : State) (token : Token) : Option State :=
  match state.expected, token with
  | .value, _ => value token state.frames
  | .valueOrClose, .arrayCloses => close token state.frames
  | .valueOrClose, _ => value token state.frames
  | .name, _ => name token state.frames
  | .nameOrClose, .objectCloses => close token state.frames
  | .nameOrClose, _ => name token state.frames
  | .colon, .colon => some { state with expected := .value }
  | .colon, _ => none
  | .commaOrClose, .comma =>
    match state.frames with
    | .array _ :: _ => some { state with expected := .value }
    | .object .. :: _ => some { state with expected := .name }
    | [] => none
  | .commaOrClose, _ => close token state.frames
  | .nothing, _ => none

end Reader

/-- Reads a text that holds exactly one value. -/
def ofText? (text : String) : Option Json := do
  let words ← Token.ofText? text
  let state ← words.foldlM Reader.step Reader.initial
  match state.expected with
  | .nothing => some state.result
  | _ => none

end QueryGuard.Json
