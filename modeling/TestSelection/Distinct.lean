/-!
# Lists without repetition

A list is built up by offering values one after another; one that is there already is not added.
-/
namespace TestSelection

variable {α : Type} [DecidableEq α]

/-- Adds a value at the end unless it is there already. -/
def addDistinct (values : List α) (value : α) : List α :=
  if value ∈ values then values else values ++ [value]

/-- The first occurrence of each value, in order. -/
def distinct (values : List α) : List α :=
  values.foldl addDistinct []

end TestSelection
