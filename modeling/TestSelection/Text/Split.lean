/-!
# Splitting texts

The pieces of a text between the occurrences of a separator, empty ones included. Main statement: a
separator between two texts splits there, and nothing else changes (`splitChars_append`).
-/
namespace TestSelection.Text

/-- The pieces between the separators; there is one more of them than there are separators. -/
def splitChars (separator : Char) : List Char → List (List Char)
  | [] => [[]]
  | c :: rest =>
    if c = separator then [] :: splitChars separator rest
    else
      match splitChars separator rest with
      | [] => [[c]]
      | piece :: more => (c :: piece) :: more

/-- The pieces of a text between the separators. -/
def split (separator : Char) (s : String) : List String :=
  (splitChars separator s.toList).map String.ofList

theorem splitChars_ne_nil (separator : Char) (cs : List Char) : splitChars separator cs ≠ [] := by
  cases cs with
  | nil => simp [splitChars]
  | cons c rest =>
    unfold splitChars
    split
    · simp
    · split <;> simp

theorem splitChars_append (separator : Char) (as bs : List Char) :
    splitChars separator (as ++ separator :: bs) =
      splitChars separator as ++ splitChars separator bs := by
  induction as with
  | nil => simp [splitChars]
  | cons a as ih =>
    by_cases h : a = separator
    · simp [splitChars, h, ih]
    · obtain ⟨piece, more, hs⟩ := List.exists_cons_of_ne_nil (splitChars_ne_nil separator as)
      simp [splitChars, h, ih, hs]

theorem splitChars_of_not_mem {separator : Char} {cs : List Char} (h : separator ∉ cs) :
    splitChars separator cs = [cs] := by
  induction cs with
  | nil => rfl
  | cons c rest ih =>
    rw [List.mem_cons, not_or] at h
    rw [splitChars, if_neg (Ne.symm h.1), ih h.2]

end TestSelection.Text
