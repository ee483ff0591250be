import TestSelection.Distinct

/-!
# Substitution of variables

A text is read from left to right as characters and references. A reference is a dollar sign with a
braced expression of at least one character up to the first closing brace; the expression is a name,
and behind `:-` what to use when the name is not bound. What is put in is not read again.
-/
namespace TestSelection

/-- The value of each variable that is bound. -/
abbrev Variables := String → Option String

namespace Substitution

/-- A part of a text. -/
inductive Piece
  | literal (c : Char)
  | reference (name : String) (fallback : Option (List Char))
  deriving DecidableEq

/-- The text before the first `:-` and the text behind it, if it stands there. -/
def splitFallback : List Char → List Char × Option (List Char)
  | [] => ([], none)
  | ':' :: '-' :: rest => ([], some rest)
  | c :: rest => (c :: (splitFallback rest).1, (splitFallback rest).2)

/-- The expression of the reference that starts a text, and the text behind it. -/
def reference? : List Char → Option (List Char × List Char)
  | '$' :: '\x7b' :: text =>
    match text.takeWhile (· != '\x7d'), text.dropWhile (· != '\x7d') with
    | c :: expression, _ :: rest => some (c :: expression, rest)
    | _, _ => none
  | _ => none

/-- The reference that an expression writes. -/
def Piece.ofExpression (expression : List Char) : Piece :=
  let (name, fallback) := splitFallback expression
  .reference (String.ofList name) fallback

/-- The text behind a reference is shorter. -/
theorem length_of_reference? {text expression rest : List Char}
    (h : reference? text = some (expression, rest)) : rest.length < text.length := by
  unfold reference? at h
  split at h
  · next text =>
    split at h
    · next c e r he hr =>
      have hle := (List.dropWhile_sublist (· != '\x7d') (l := text)).length_le
      cases h
      rw [hr] at hle
      simp only [List.length_cons] at hle ⊢
      omega
    · cases h
  · cases h

/-- The parts of a text. -/
def pieces (text : List Char) : List Piece :=
  match text with
  | [] => []
  | c :: tail =>
    match _h : reference? (c :: tail) with
    | some (expression, rest) => .ofExpression expression :: pieces rest
    | none => .literal c :: pieces tail
termination_by text.length
decreasing_by
  · exact length_of_reference? _h
  · simp

/-- What is put in for a part: a bound value comes before the fallback. -/
def Piece.text (vars : Variables) : Piece → List Char
  | literal c => [c]
  | reference name fallback =>
    match vars name with
    | some value => value.toList
    | none => fallback.getD []

/-- The name of a reference that nothing can be put in for. -/
def Piece.missing? (vars : Variables) : Piece → Option String
  | literal _ => none
  | reference name fallback =>
    if (vars name).isNone && fallback.isNone then some name else none

/-- The names that are missing, each once. -/
def missing (vars : Variables) (text : List Char) : List String :=
  distinct ((pieces text).filterMap (Piece.missing? vars))

/-- The text with a value for each reference, or the names that are missing. -/
def resolve (vars : Variables) (text : String) : Except (List String) String :=
  match missing vars text.toList with
  | [] => .ok (String.ofList ((pieces text.toList).flatMap (Piece.text vars)))
  | names => .error names

end Substitution

end TestSelection
