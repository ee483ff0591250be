import TestSelection.Manifest.Error
import TestSelection.Proofs.Distinct
import TestSelection.Substitution

/-!
# Readings of a text

A text has exactly one reading as literals with references between them, where each reference is the
leftmost one behind the reference before it. What comes out of a text is said by this reading: its
literals with a value for each reference, or the names of the references without a value
(`resolve_eq_of_reads`).
-/
namespace TestSelection.Substitution

/-! ## What a reading is -/

/-- What may stand between the braces of a reference. -/
def IsExpression (e : List Char) : Prop :=
  e ≠ [] ∧ '\x7d' ∉ e

/-- The reference that is written with an expression. -/
def braced (e : List Char) : List Char :=
  '$' :: '\x7b' :: (e ++ ['\x7d'])

/-- A reference starts behind some number of characters. -/
def StartsAt (text : List Char) (n : Nat) : Prop :=
  ∃ e rest, IsExpression e ∧ text.drop n = braced e ++ rest

/-- An expression splits at its first `:-` into a name and a fallback; without one it is all name. -/
def Splits (e name : List Char) (fallback : Option (List Char)) : Prop :=
  e = name ++ fallback.elim [] ([':', '-'] ++ ·) ∧ ∀ n < name.length, ¬[':', '-'] <+: e.drop n

/-- A text as a literal, or as a literal with a reference and more text behind it. -/
inductive Reading
  | last (literal : List Char)
  | next (literal : List Char) (name : String) (fallback : Option (List Char)) (rest : Reading)
  deriving DecidableEq

/-- A text has a reading: no reference starts in its literals. -/
inductive Reads : List Char → Reading → Prop
  | last {literal : List Char} (h : ∀ n, ¬StartsAt literal n) : Reads literal (.last literal)
  | next {literal e name text : List Char} {fallback : Option (List Char)} {rest : Reading}
      (he : IsExpression e) (hs : Splits e name fallback)
      (hl : ∀ n < literal.length, ¬StartsAt (literal ++ (braced e ++ text)) n)
      (hr : Reads text rest) :
      Reads (literal ++ (braced e ++ text)) (.next literal (String.ofList name) fallback rest)

namespace Reading

def references : Reading → List (String × Option (List Char))
  | last _ => []
  | next _ name fallback rest => (name, fallback) :: rest.references

/-- The literals of a reading with a text for each reference. -/
def fill (f : String × Option (List Char) → List Char) : Reading → List Char
  | last literal => literal
  | next literal name fallback rest => literal ++ (f (name, fallback) ++ rest.fill f)

def cons (c : Char) : Reading → Reading
  | last literal => last (c :: literal)
  | next literal name fallback rest => next (c :: literal) name fallback rest

/-- The reading in which characters that follow each other make one literal. -/
def ofPieces : List Piece → Reading
  | [] => last []
  | .literal c :: rest => (ofPieces rest).cons c
  | .reference name fallback :: rest => next [] name fallback (ofPieces rest)

end Reading

/-- What stands for a reference: the value of the name, else the fallback. -/
def value? (vars : Variables) (r : String × Option (List Char)) : Option (List Char) :=
  ((vars r.1).map String.toList).or r.2

/-! ## Names and fallbacks -/

theorem splitFallback_cons {c : Char} {rest : List Char} (h : ¬[':', '-'] <+: c :: rest) :
    splitFallback (c :: rest) = (c :: (splitFallback rest).1, (splitFallback rest).2) := by
  rw [splitFallback]
  rintro more rfl rfl
  exact h ⟨more, rfl⟩

theorem splits_cons_iff {c : Char} {rest name : List Char} {fallback : Option (List Char)}
    (h : ¬[':', '-'] <+: c :: rest) :
    Splits (c :: rest) name fallback ↔ ∃ tail, name = c :: tail ∧ Splits rest tail fallback := by
  constructor
  · rintro ⟨he, hn⟩
    cases name with
    | nil =>
        cases fallback with
        | none => cases he
        | some more => exact absurd ⟨more, he.symm⟩ h
    | cons d tail =>
        obtain ⟨rfl, htail⟩ := List.cons.inj he
        refine ⟨tail, rfl, htail, fun n hlt => ?_⟩
        simpa only [List.drop_succ_cons] using hn (n + 1) (Nat.succ_lt_succ hlt)
  · rintro ⟨tail, rfl, rfl, hn⟩
    refine ⟨rfl, fun n hlt => ?_⟩
    cases n with
    | zero => exact h
    | succ n => simpa only [List.drop_succ_cons] using hn n (Nat.lt_of_succ_lt_succ hlt)

theorem splits_iff {e name : List Char} {fallback : Option (List Char)} :
    Splits e name fallback ↔ splitFallback e = (name, fallback) := by
  induction e generalizing name with
  | nil =>
      constructor
      · rintro ⟨he, -⟩
        obtain ⟨rfl, hf⟩ := List.append_eq_nil_iff.mp he.symm
        cases fallback with
        | none => rfl
        | some more => cases hf
      · intro h
        cases h
        exact ⟨rfl, nofun⟩
  | cons c rest ih =>
      by_cases h : [':', '-'] <+: c :: rest
      · obtain ⟨more, hm⟩ := h
        rw [← hm]
        constructor
        · rintro ⟨he, hn⟩
          cases name with
          | nil =>
              cases fallback with
              | none => cases he
              | some more' => cases he; rfl
          | cons d tail => exact absurd ⟨more, rfl⟩ (hn 0 (Nat.zero_lt_succ _))
        · intro h
          cases h
          exact ⟨rfl, nofun⟩
      · rw [splits_cons_iff h, splitFallback_cons h, Prod.mk.injEq]
        constructor
        · rintro ⟨tail, rfl, hs⟩
          rw [ih.mp hs]
          exact ⟨rfl, rfl⟩
        · rintro ⟨rfl, rfl⟩
          exact ⟨_, rfl, ih.mpr rfl⟩

/-! ## Where references start -/

/-- A reference is found where a text starts with one, and its expression ends at the first brace. -/
theorem reference?_eq_some_iff {text e rest : List Char} :
    reference? text = some (e, rest) ↔ IsExpression e ∧ text = braced e ++ rest := by
  constructor
  · intro h
    unfold reference? at h
    split at h
    · rename_i text
      split at h
      · rename_i c e d rest hc hd
        cases h
        have hall := List.all_eq_true.mp (List.all_takeWhile (p := (· != '\x7d')) (l := text))
        have hbrace : d = '\x7d' := by
          have hh := List.head?_dropWhile_not (· != '\x7d') text
          simpa [hd] using hh
        refine ⟨⟨List.cons_ne_nil _ _, fun hm => ?_⟩, ?_⟩
        · exact absurd (hall '\x7d' (hc ▸ hm)) (by decide)
        · rw [← List.takeWhile_append_dropWhile (p := (· != '\x7d')) (l := text), hc, hd, hbrace]
          simp [braced]
      · cases h
    · cases h
  · rintro ⟨⟨hne, hb⟩, rfl⟩
    have hall : ∀ c ∈ e, (c != '\x7d') = true := fun c hc =>
      bne_iff_ne.mpr fun heq => hb (heq ▸ hc)
    have ht : (e ++ ['\x7d'] ++ rest).takeWhile (· != '\x7d') = e := by
      rw [List.append_assoc, List.takeWhile_append_of_pos hall]
      simp
    have hd : (e ++ ['\x7d'] ++ rest).dropWhile (· != '\x7d') = '\x7d' :: rest := by
      rw [List.append_assoc, List.dropWhile_append_of_pos hall]
      simp
    obtain ⟨c, tail, rfl⟩ := List.exists_cons_of_ne_nil hne
    simp only [braced, List.cons_append, reference?] at ht hd ⊢
    rw [ht, hd]

theorem startsAt_zero_iff {text : List Char} :
    StartsAt text 0 ↔ ∃ e rest, reference? text = some (e, rest) := by
  simp only [reference?_eq_some_iff]
  rfl

/-- A reference starts at a dollar sign with an opening brace that is closed, but not at once. -/
theorem startsAt_iff {text : List Char} {n : Nat} : StartsAt text n ↔
    ∃ rest, text.drop n = '$' :: '\x7b' :: rest ∧ '\x7d' ∈ rest ∧ rest.head? ≠ some '\x7d' := by
  constructor
  · rintro ⟨e, more, ⟨hne, hb⟩, ht⟩
    refine ⟨e ++ '\x7d' :: more, by simpa [braced] using ht, by simp, ?_⟩
    obtain ⟨c, tail, rfl⟩ := List.exists_cons_of_ne_nil hne
    rintro hc
    cases hc
    exact hb List.mem_cons_self
  · rintro ⟨rest, ht, hclosed, hhead⟩
    obtain ⟨e, more, rfl, hb⟩ := List.eq_append_cons_of_mem hclosed
    refine ⟨e, more, ⟨?_, hb⟩, by simp [ht, braced]⟩
    rintro rfl
    exact hhead rfl

theorem startsAt_append_iff {a b : List Char} {n : Nat} (hn : n < a.length) : StartsAt (a ++ b) n ↔
    a[n] = '$' ∧ ∃ rest, a.drop (n + 1) ++ b = '\x7b' :: rest ∧ '\x7d' ∈ rest ∧
      rest.head? ≠ some '\x7d' := by
  rw [startsAt_iff, List.drop_append_of_le_length (Nat.le_of_lt hn), List.drop_eq_getElem_cons hn]
  simp only [List.cons_append, List.cons.injEq, and_assoc, exists_and_left]

theorem pieces_of_reference {text e rest : List Char} (h : reference? text = some (e, rest)) :
    pieces text = .ofExpression e :: pieces rest := by
  cases text with
  | nil => cases h
  | cons c tail =>
      rw [pieces]
      split
      · rename_i e' rest' h'
        rw [h] at h'
        cases h'
        rfl
      · rename_i h'
        rw [h] at h'
        cases h'

theorem pieces_of_not_startsAt {c : Char} {tail : List Char} (h : ¬StartsAt (c :: tail) 0) :
    pieces (c :: tail) = .literal c :: pieces tail := by
  rw [pieces]
  split
  · rename_i e rest h'
    exact absurd (startsAt_zero_iff.mpr ⟨e, rest, h'⟩) h
  · rfl

theorem pieces_append {literal text : List Char}
    (h : ∀ n < literal.length, ¬StartsAt (literal ++ text) n) :
    pieces (literal ++ text) = literal.map .literal ++ pieces text := by
  induction literal with
  | nil => rfl
  | cons c tail ih =>
      have hc : ¬StartsAt (c :: (tail ++ text)) 0 := h 0 (Nat.zero_lt_succ _)
      have ht : ∀ n < tail.length, ¬StartsAt (tail ++ text) n := fun n hlt =>
        h (n + 1) (Nat.succ_lt_succ hlt)
      rw [List.cons_append, pieces_of_not_startsAt hc, ih ht]
      rfl

/-! ## The one reading -/

theorem Reading.ofPieces_append {literal : List Char} (rest : List Piece) :
    ofPieces (literal.map .literal ++ rest) = literal.foldr cons (ofPieces rest) := by
  induction literal with
  | nil => rfl
  | cons c tail ih => exact congrArg (cons c) ih

theorem Reading.foldr_cons_last (literal : List Char) :
    literal.foldr cons (last []) = last literal := by
  induction literal with
  | nil => rfl
  | cons c tail ih => rw [List.foldr_cons, ih, cons]

theorem Reading.foldr_cons_next (literal : List Char) (name : String)
    (fallback : Option (List Char)) (rest : Reading) :
    literal.foldr cons (next [] name fallback rest) = next literal name fallback rest := by
  induction literal with
  | nil => rfl
  | cons c tail ih => rw [List.foldr_cons, ih, cons]

theorem Reads.cons {c : Char} {text : List Char} {r : Reading} (h : ¬StartsAt (c :: text) 0)
    (hr : Reads text r) : Reads (c :: text) (r.cons c) := by
  cases hr with
  | last ht =>
      refine .last fun n => ?_
      cases n with
      | zero => exact h
      | succ n => exact ht n
  | @next literal e name text fallback rest he hs hl hr =>
      refine @Reads.next (c :: literal) _ _ _ _ _ he hs (fun n hlt => ?_) hr
      cases n with
      | zero => exact h
      | succ n => exact hl n (Nat.lt_of_succ_lt_succ hlt)

theorem reads_ofPieces (text : List Char) : Reads text (.ofPieces (pieces text)) := by
  fun_induction pieces text with
  | case1 => exact .last fun n ⟨e, rest, _, h⟩ => by simp [braced] at h
  | case2 c tail e rest h ih =>
      obtain ⟨he, htext⟩ := reference?_eq_some_iff.mp h
      rw [htext]
      exact @Reads.next [] _ _ _ _ _ he (splits_iff.mpr rfl) nofun ih
  | case3 c tail h ih =>
      refine ih.cons fun hs => ?_
      obtain ⟨e, rest, h'⟩ := startsAt_zero_iff.mp hs
      rw [h] at h'
      cases h'

/-- A text has one reading, and its parts make it up. -/
theorem reads_iff {text : List Char} {r : Reading} : Reads text r ↔ r = .ofPieces (pieces text) := by
  constructor
  · intro h
    induction h with
    | @last literal h =>
        have hp : pieces (literal ++ []) = literal.map .literal ++ pieces [] :=
          pieces_append fun n _ => by simpa using h n
        rw [List.append_nil] at hp
        rw [hp, Reading.ofPieces_append]
        simp [pieces, Reading.ofPieces, Reading.foldr_cons_last]
    | next he hs hl _ ih =>
        rw [pieces_append hl, pieces_of_reference (reference?_eq_some_iff.mpr ⟨he, rfl⟩),
          Reading.ofPieces_append, Piece.ofExpression, splits_iff.mp hs, Reading.ofPieces, ← ih,
          Reading.foldr_cons_next]
  · rintro rfl
    exact reads_ofPieces text

/-! ## What comes out -/

variable (vars : Variables)

theorem Reading.fill_cons (f : String × Option (List Char) → List Char) (c : Char) (r : Reading) :
    (r.cons c).fill f = c :: r.fill f := by
  cases r <;> rfl

theorem Reading.references_cons (c : Char) (r : Reading) : (r.cons c).references = r.references := by
  cases r <;> rfl

theorem fill_ofPieces (ps : List Piece) :
    (Reading.ofPieces ps).fill (fun r => (value? vars r).getD []) = ps.flatMap (Piece.text vars) := by
  induction ps with
  | nil => rfl
  | cons p rest ih =>
      rw [List.flatMap_cons, ← ih]
      cases p with
      | literal c => exact Reading.fill_cons _ c _
      | reference name fallback =>
          have hv : (value? vars (name, fallback)).getD [] =
              Piece.text vars (.reference name fallback) := by
            cases h : vars name <;> simp [value?, Piece.text, h]
          rw [← hv]
          rfl

theorem missing_ofPieces (ps : List Piece) :
    ps.filterMap (Piece.missing? vars) =
      ((Reading.ofPieces ps).references.filter fun r => value? vars r = none).map (·.1) := by
  induction ps with
  | nil => rfl
  | cons p rest ih =>
      cases p with
      | literal c =>
          rw [Reading.ofPieces, Reading.references_cons, ← ih]
          rfl
      | reference name fallback =>
          rw [Reading.ofPieces, Reading.references]
          cases h : vars name <;> cases fallback <;> simp [value?, Piece.missing?, h, ih]

/-- A text has one reading, and it decides what the text resolves to: if each of its references has a
value, the literals with these values in between, and otherwise the names of the references without a
value, each once and in the order of their first occurrences. -/
theorem resolve_eq_of_reads (text : String) :
    ∃ reading, (∀ other, Reads text.toList other ↔ other = reading) ∧
      resolve vars text =
        (if ∀ r ∈ reading.references, (value? vars r).isSome then
          .ok (String.ofList (reading.fill fun r => (value? vars r).getD []))
        else
          .error ((reading.references.filter fun r => value? vars r = none).map (·.1)).eraseDups) ∧
      ∀ names, (ManifestError.unboundVariables names).message =
        "Environment variable not found: " ++ ", ".intercalate names := by
  refine ⟨.ofPieces (pieces text.toList), fun other => reads_iff, ?_, fun _ => rfl⟩
  have hc : (∀ r ∈ (Reading.ofPieces (pieces text.toList)).references, (value? vars r).isSome) ↔
      (pieces text.toList).filterMap (Piece.missing? vars) = [] := by
    rw [missing_ofPieces, List.map_eq_nil_iff, List.filter_eq_nil_iff]
    simp only [decide_eq_true_eq, Option.isSome_iff_ne_none, ne_eq]
  rw [fill_ofPieces, ← missing_ofPieces, resolve, missing, distinct_eq_eraseDups]
  simp only [hc]
  cases (pieces text.toList).filterMap (Piece.missing? vars) with
  | nil => rfl
  | cons name rest => rw [List.eraseDups_cons, if_neg (List.cons_ne_nil _ _)]

end TestSelection.Substitution
