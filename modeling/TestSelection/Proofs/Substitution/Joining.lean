import Mathlib.Data.List.Basic
import TestSelection.Proofs.Substitution.Reading

/-!
# Texts one behind the other

A text in which every dollar sign has a closing brace behind it leaves nothing open at its end: no
reference begins in it and ends in the text behind it. So the two texts are read one by one, and what they
come to together is said by what each of them comes to (`resolve_append`).
-/
namespace TestSelection.Substitution

/-- Every dollar sign of a text has a closing brace somewhere behind it. -/
def Closed (text : List Char) : Prop :=
  ∀ before after, text = before ++ '$' :: after → '\x7d' ∈ after

theorem Closed.of_append {front text : List Char} (h : Closed (front ++ text)) : Closed text := by
  intro before after ht
  apply h (front ++ before)
  rw [ht, List.append_assoc]

theorem closed_of_getLast? {text : List Char} (h : text.getLast? = some '\x7d') : Closed text := by
  rintro before after rfl
  cases after with
  | nil => simp at h
  | cons c more =>
      rw [List.getLast?_append_of_ne_nil _ (List.cons_ne_nil _ _), List.getLast?_cons_cons] at h
      exact List.mem_of_getLast? h

/-! ## Readings -/

/-- What stands behind a closed text makes no difference to where references start in it. -/
theorem startsAt_append_of_closed {a b : List Char} (h : Closed a) {n : Nat} (hn : n < a.length) :
    StartsAt (a ++ b) n ↔ StartsAt a n := by
  have halone := startsAt_append_iff (b := []) hn
  rw [List.append_nil, List.append_nil] at halone
  rw [startsAt_append_iff hn, halone]
  refine and_congr_right fun hdollar => ?_
  have hclosed : '\x7d' ∈ a.drop (n + 1) := by
    apply h (a.take n)
    rw [← hdollar, ← List.drop_eq_getElem_cons hn, List.take_append_drop]
  constructor
  · rintro ⟨rest, ht, -, hhead⟩
    -- The brace is in the first text, so the opening one before it is there as well.
    rcases List.append_eq_cons_iff.mp ht with ⟨hnil, -⟩ | ⟨tail, hopen, rfl⟩
    · rw [hnil] at hclosed
      cases hclosed
    · have hmem : '\x7d' ∈ tail := by simpa [hopen] using hclosed
      refine ⟨tail, hopen, hmem, ?_⟩
      obtain ⟨c, more, rfl⟩ := List.exists_cons_of_ne_nil (List.ne_nil_of_mem hmem)
      exact hhead
  · rintro ⟨rest, hopen, hmem, hhead⟩
    refine ⟨rest ++ b, by rw [hopen, List.cons_append], List.mem_append_left b hmem, ?_⟩
    obtain ⟨c, more, rfl⟩ := List.exists_cons_of_ne_nil (List.ne_nil_of_mem hmem)
    exact hhead

theorem pieces_append_of_closed {a b : List Char} (h : Closed a) :
    pieces (a ++ b) = pieces a ++ pieces b := by
  fun_induction pieces a with
  | case1 => rfl
  | case2 c tail e rest href ih =>
      obtain ⟨he, ht⟩ := reference?_eq_some_iff.mp href
      have hb : reference? (c :: tail ++ b) = some (e, rest ++ b) :=
        reference?_eq_some_iff.mpr ⟨he, by rw [ht, List.append_assoc]⟩
      rw [ht] at h
      rw [pieces_of_reference hb, ih h.of_append, List.cons_append]
  | case3 c tail href ih =>
      have hs : ¬StartsAt (c :: (tail ++ b)) 0 := by
        rw [← List.cons_append, startsAt_append_of_closed h (Nat.zero_lt_succ _), startsAt_zero_iff, href]
        rintro ⟨e, rest, hsome⟩
        cases hsome
      have ht : Closed tail := @Closed.of_append [c] tail h
      rw [List.cons_append, pieces_of_not_startsAt hs, ih ht, List.cons_append]

/-! ## What comes out -/

theorem missing_append (vars : Variables) {a b : List Char} (h : Closed a) :
    missing vars (a ++ b) =
      missing vars a ++ (missing vars b).filter (· ∉ missing vars a) := by
  rw [missing, pieces_append_of_closed h, List.filterMap_append, distinct_append]
  rfl

/-- Behind a closed text any text may follow. If both can be resolved, so can the two together, and what
comes out of them stands one behind the other. Otherwise the names that are missing are those of the first
text and behind them those of the second that are not among them. -/
theorem resolve_append (vars : Variables) {a : String} (h : Closed a.toList) (b : String) :
    resolve vars (a ++ b) = match resolve vars a, resolve vars b with
      | .ok s, .ok t => .ok (s ++ t)
      | .ok _, .error names => .error names
      | .error names, .ok _ => .error names
      | .error names, .error more => .error (names ++ more.filter (· ∉ names)) := by
  unfold resolve
  rw [String.toList_append, missing_append vars h, pieces_append_of_closed h, List.flatMap_append,
    String.ofList_append]
  cases missing vars a.toList with
  | nil => cases hb : missing vars b.toList <;> simp
  | cons name names => cases missing vars b.toList <;> simp

/-- The dollar signs of the first text are closed by the brace of a reference and by a pair of braces with
nothing in it; the second text closes nothing that was left open. -/
theorem resolve_append_pairs :
    let vars : Variables := fun name => if name = "SUITE" then some "nightly" else none
    let a := "$$\x7bSUITE\x7d $\x7b\x7d $\x7bA\x7d"
    Closed a.toList ∧
      resolve vars (a ++ "\x7b$\x7bB\x7d$\x7bA\x7d\x7d") = .error ["A", "B"] := by
  intro vars a
  have h : Closed a.toList := closed_of_getLast? (by decide +kernel)
  have ha : resolve vars a = .error ["A"] := by decide +kernel
  have hb : resolve vars "\x7b$\x7bB\x7d$\x7bA\x7d\x7d" = .error ["B", "A"] := by decide +kernel
  refine ⟨h, ?_⟩
  rw [resolve_append vars h, ha, hb]
  rfl

end TestSelection.Substitution
