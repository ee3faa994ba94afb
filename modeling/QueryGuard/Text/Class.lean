import QueryGuard.Text.Category
import QueryGuard.Text.Property
import QueryGuard.Text.Script

/-!
# Named classes of characters

The classes that patterns can name: digits, blanks and word characters, the
bracketed ASCII classes, and those of Unicode properties.
-/

namespace QueryGuard.Text.Class

def digit : CharSet := Category.decimalNumber

def space : CharSet := Property.whiteSpace

/-- Letters, marks, digits, connectors such as the low line, and joiners. -/
def word : CharSet := .unionAll
  [Property.alphabetic, Category.mark, Category.decimalNumber, Category.connectorPunctuation,
    Property.joinControl]

def asciiDigit : CharSet := .range 0x30 0x39

def asciiSpace : CharSet := ⟨[(0x09, 0x0D), (0x20, 0x20)]⟩

def asciiWord : CharSet := ⟨[(0x30, 0x39), (0x41, 0x5A), (0x5F, 0x5F), (0x61, 0x7A)]⟩

/-- The bracketed class names. -/
def ascii? (name : String) : Option CharSet :=
  match name with
  | "alnum" => some ⟨[(0x30, 0x39), (0x41, 0x5A), (0x61, 0x7A)]⟩
  | "alpha" => some ⟨[(0x41, 0x5A), (0x61, 0x7A)]⟩
  | "ascii" => some (.range 0 0x7F)
  | "blank" => some ⟨[(0x09, 0x09), (0x20, 0x20)]⟩
  | "cntrl" => some ⟨[(0, 0x1F), (0x7F, 0x7F)]⟩
  | "digit" => some asciiDigit
  | "graph" => some (.range 0x21 0x7E)
  | "lower" => some (.range 0x61 0x7A)
  | "print" => some (.range 0x20 0x7E)
  | "punct" => some ⟨[(0x21, 0x2F), (0x3A, 0x40), (0x5B, 0x60), (0x7B, 0x7E)]⟩
  | "space" => some asciiSpace
  | "upper" => some (.range 0x41 0x5A)
  | "word" => some asciiWord
  | "xdigit" => some ⟨[(0x30, 0x39), (0x41, 0x46), (0x61, 0x66)]⟩
  | _ => none

-- ---------------------------------------------------------------------------
-- Unicode names
-- ---------------------------------------------------------------------------

/-- Names are compared without case, blanks, low lines and dashes, without
characters beyond ASCII and without a leading `is`. -/
def loose (name : List Char) : String :=
  let bare := match name with
    | i :: s :: rest => if i.toLower = 'i' && s.toLower = 's' then rest else name
    | _ => name
  let kept := bare.filter fun c => c.toNat < 0x80 && c != ' ' && c != '_' && c != '-'
  let lower := String.ofList (kept.map Char.toLower)
  -- A name of its own, and not the category `c`.
  if lower = "c" && bare.length < name.length then "isc" else lower

def category? (name : String) : Option CharSet :=
  match name with
  | "any" => some .all
  | "ascii" => some (.range 0 0x7F)
  | "assigned" => some Category.unassigned.complement
  | _ => (Category.names.find? fun entry => entry.1.contains name).map Prod.snd

def property? (name : String) : Option CharSet :=
  (Property.names.find? fun entry => entry.1.contains name).map Prod.snd

def script? (name : String) : Option CharSet := (Script.ofName? name).map Script.characters

/-- A class by a single name: properties come first, then categories, then
scripts. -/
def named? (name : List Char) : Option CharSet :=
  let name := loose name
  (property? name).or ((category? name).or (script? name))

/-- A class by the name of a property and one of its values. -/
def valued? (name value : List Char) : Option CharSet :=
  match loose name with
  | "gc" | "generalcategory" => category? (loose value)
  | "sc" | "script" => script? (loose value)
  | "scx" | "scriptextensions" => (Script.ofName? (loose value)).map Script.extensions
  | _ => none

end QueryGuard.Text.Class
