import TestSelection.Decimal

/-!
# JSON values

Integers are exact; every other number is kept as the shortest decimal of its double precision
value. An object is the list of its fields; a document that is read has them in the order of their
names, each name once.
-/
namespace TestSelection

inductive Json
  | null
  | bool (b : Bool)
  | int (n : Int)
  | float (d : Decimal)
  | text (s : String)
  | list (items : List Json)
  | object (fields : List (String × Json))
  deriving Inhabited

namespace Json

/-- The positions of the point at which a float is written out; elsewhere it has an exponent. -/
def isPositional (point : Int) : Bool :=
  -5 < point && point ≤ 16

/-- The value of the first field of that name. -/
def field? (name : String) : Json → Option Json
  | object fields => fields.lookup name
  | _ => none

/-- A list of texts. -/
def ofTexts (ts : List String) : Json :=
  list (ts.map text)

/-- A text, or null when there is none. -/
def ofText? : Option String → Json
  | none => null
  | some s => text s

/-- A number without sign. -/
def ofNat (n : Nat) : Json :=
  int n

end Json

end TestSelection
