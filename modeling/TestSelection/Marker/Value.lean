import TestSelection.Ordered

/-!
# Arguments of markers

A marker is written with positional arguments and with keywords. The keywords form a table in the
order of their names, so the order in which they were written cannot matter.
-/
namespace TestSelection

/-- A value given to a marker. -/
inductive MarkerValue
  | bool (b : Bool)
  | integer (n : Int64)
  | text (s : String)
  | list (items : List MarkerValue)
  deriving Inhabited

namespace MarkerValue

def bool? : MarkerValue → Option Bool
  | bool b => some b
  | _ => none

def text? : MarkerValue → Option String
  | text s => some s
  | _ => none

mutual

/-- Decides whether two values are the same. -/
def decEq : (v w : MarkerValue) → Decidable (v = w)
  | bool a, bool b => decidable_of_iff (a = b) (by rw [bool.injEq])
  | integer a, integer b => decidable_of_iff (a = b) (by rw [integer.injEq])
  | text a, text b => decidable_of_iff (a = b) (by rw [text.injEq])
  | list a, list b =>
    have := decEqList a b
    decidable_of_iff (a = b) (by rw [list.injEq])
  | bool _, integer _ | bool _, text _ | bool _, list _ => isFalse nofun
  | integer _, bool _ | integer _, text _ | integer _, list _ => isFalse nofun
  | text _, bool _ | text _, integer _ | text _, list _ => isFalse nofun
  | list _, bool _ | list _, integer _ | list _, text _ => isFalse nofun

def decEqList : (v w : List MarkerValue) → Decidable (v = w)
  | [], [] => isTrue rfl
  | a :: v, b :: w =>
    have := decEq a b
    have := decEqList v w
    decidable_of_iff (a = b ∧ v = w) (by rw [List.cons.injEq])
  | [], _ :: _ | _ :: _, [] => isFalse nofun

end

instance : DecidableEq MarkerValue := decEq

end MarkerValue

/-- The keywords of a marker, each name once and in the order of the names. -/
structure Keywords where
  entries : List (String × MarkerValue)
  ordered : Ordered.IsOrdered entries
  deriving DecidableEq

namespace Keywords

def empty : Keywords where
  entries := []
  ordered := List.Pairwise.nil

instance : Inhabited Keywords := ⟨empty⟩

/-- The keywords of a list of entries; of two entries of one name the later counts. -/
def ofList (entries : List (String × MarkerValue)) : Keywords where
  entries := Ordered.ofList entries
  ordered := Ordered.isOrdered_ofList entries

@[ext] theorem ext {k l : Keywords} (h : k.entries = l.entries) : k = l := by
  cases k; cases l; simp_all

end Keywords

end TestSelection
