import Mathlib.Data.List.Basic
import TestSelection.Manifest.Read
import TestSelection.Proofs.Substitution.Reading

/-!
# Text that was resolved

A dollar sign with an opening brace that stands in a literal is closed at once or never, or it would have
been read as a reference. So a new reference can only arise from what is put in, and where that has no
dollar sign and lends no brace to one before it, resolved text has no reference: it may be resolved again,
with whatever variables, and read as a manifest with the same result (`readWith_of_resolve`).
-/
namespace TestSelection.Substitution

/-- What can be put in for a reference without being part of another one: some text without a dollar sign
that does not start with an opening brace. -/
structure IsInert (value : List Char) : Prop where
  nonempty : value ≠ []
  dollar : '$' ∉ value
  brace : value.head? ≠ some '\x7b'

instance (value : List Char) : Decidable (IsInert value) :=
  decidable_of_iff (value ≠ [] ∧ '$' ∉ value ∧ value.head? ≠ some '\x7b')
    ⟨fun h => ⟨h.1, h.2.1, h.2.2⟩, fun h => ⟨h.nonempty, h.dollar, h.brace⟩⟩

/-! ## No reference is left -/

/-- The places of a text behind another one are those behind it and those in it. -/
theorem not_startsAt_append {front text : List Char}
    (hfront : ∀ n < front.length, ¬StartsAt (front ++ text) n) (htext : ∀ n, ¬StartsAt text n) (n : Nat) :
    ¬StartsAt (front ++ text) n := by
  by_cases hn : n < front.length
  · exact hfront n hn
  · obtain ⟨k, rfl⟩ := Nat.exists_eq_add_of_le (Nat.not_lt.mp hn)
    rintro ⟨e, rest, he, ht⟩
    rw [← List.drop_drop, List.drop_left] at ht
    exact htext k ⟨e, rest, he, ht⟩

theorem IsInert.not_startsAt {value text : List Char} (h : IsInert value) {n : Nat}
    (hn : n < value.length) : ¬StartsAt (value ++ text) n := by
  intro hs
  obtain ⟨hdollar, -⟩ := (startsAt_append_iff hn).mp hs
  exact h.dollar (hdollar ▸ List.getElem_mem hn)

/-- A literal before a reference has no opening brace that is still to be closed, so a reference cannot start
in it with anything inert put in for the one behind it. -/
theorem not_startsAt_literal {literal e text value more : List Char}
    (hl : ∀ n < literal.length, ¬StartsAt (literal ++ (braced e ++ text)) n) (hv : IsInert value) {n : Nat}
    (hn : n < literal.length) : ¬StartsAt (literal ++ (value ++ more)) n := by
  intro hs
  obtain ⟨hdollar, rest, ht, -, hhead⟩ := (startsAt_append_iff hn).mp hs
  rcases List.append_eq_cons_iff.mp ht with ⟨-, hvalue⟩ | ⟨tail, hopen, rfl⟩
  · -- The dollar sign is the last character, and the brace would have to be the first one put in.
    obtain ⟨c, value, rfl⟩ := List.exists_cons_of_ne_nil hv.nonempty
    obtain ⟨rfl, -⟩ := List.cons.inj hvalue
    exact hv.brace rfl
  · -- The brace of the reference behind closes what was opened here, so a reference starts here.
    apply hl n hn
    refine (startsAt_append_iff hn).mpr ⟨hdollar, tail ++ (braced e ++ text), ?_, by simp [braced], ?_⟩
    · rw [hopen, List.cons_append]
    · cases tail with
      | nil => simp [braced]
      | cons c tail => exact hhead

theorem Reads.not_startsAt_fill {text : List Char} {reading : Reading} (h : Reads text reading)
    {f : String × Option (List Char) → List Char} (hf : ∀ r ∈ reading.references, IsInert (f r)) (n : Nat) :
    ¬StartsAt (reading.fill f) n := by
  induction h generalizing n with
  | last hl => exact hl n
  | next _ _ hl _ ih =>
      rw [Reading.references, List.forall_mem_cons] at hf
      apply not_startsAt_append
      · intro n hn
        exact not_startsAt_literal hl hf.1 hn
      · exact not_startsAt_append (fun n hn => hf.1.not_startsAt hn) (ih hf.2)

/-! ## Resolving again -/

variable {vars : Variables} {reading : Reading}

theorem missing_eq_nil_iff {text : List Char} (h : Reads text reading) :
    missing vars text = [] ↔ ∀ r ∈ reading.references, (value? vars r).isSome := by
  rw [reads_iff.mp h, missing, distinct_eq_nil_iff, missing_ofPieces, List.map_eq_nil_iff,
    List.filter_eq_nil_iff]
  simp only [decide_eq_true_eq, Option.isSome_iff_ne_none, ne_eq]

theorem resolve_eq_ok_iff {text resolved : String} (h : Reads text.toList reading) :
    resolve vars text = .ok resolved ↔ (∀ r ∈ reading.references, (value? vars r).isSome) ∧
      resolved = String.ofList (reading.fill fun r => (value? vars r).getD []) := by
  rw [← missing_eq_nil_iff h, reads_iff.mp h, fill_ofPieces, resolve]
  cases missing vars text.toList <;> simp [eq_comm]

theorem resolve_of_not_startsAt {text : String} (h : ∀ n, ¬StartsAt text.toList n) (vars : Variables) :
    resolve vars text = .ok text :=
  (resolve_eq_ok_iff (.last h)).mpr ⟨nofun, String.ofList_toList.symm⟩

/-- Where all that was put in is inert, resolved text has no reference. Resolving it with any variables
changes nothing, and reading it with any variables comes to what reading the text itself came to, however
documents are read. -/
theorem readWith_of_resolve {text resolved : String}
    (hreads : Reads text.toList reading) (hresolve : resolve vars text = .ok resolved)
    (hinert : ∀ r ∈ reading.references, ∀ value ∈ value? vars r, IsInert value) :
    (∀ n, ¬StartsAt resolved.toList n) ∧
    (∀ others : Variables, resolve others resolved = .ok resolved) ∧
    ∀ (read : String → Except YamlError Manifest) (others : Variables),
      Manifest.readWith read vars text = Manifest.readWith read others resolved := by
  obtain ⟨hvalues, rfl⟩ := (resolve_eq_ok_iff hreads).mp hresolve
  have hnone : ∀ n, ¬StartsAt (String.ofList
      (reading.fill fun r => (value? vars r).getD [])).toList n := by
    rw [String.toList_ofList]
    apply hreads.not_startsAt_fill
    intro r hr
    obtain ⟨value, hv⟩ := Option.isSome_iff_exists.mp (hvalues r hr)
    rw [hv]
    exact hinert r hr value hv
  have hagain := resolve_of_not_startsAt hnone
  refine ⟨hnone, hagain, fun read others => ?_⟩
  rw [Manifest.readWith, Manifest.readWith, hresolve, hagain others]

/-- A dollar sign before a reference, a brace in a value, a pair of braces before one and an opening brace
that is never closed: what comes out still holds no reference. -/
theorem readWith_of_resolve_braces :
    let vars : Variables := fun name => if name = "A" then some "x\x7d" else none
    let text := "$$\x7bA\x7d $\x7b\x7d$\x7bB:-y\x7b\x7d $\x7b"
    let reading : Reading := .next ['$'] "A" none
      (.next " $\x7b\x7d".toList "B" (some "y\x7b".toList) (.last " $\x7b".toList))
    let resolved := "$x\x7d $\x7b\x7dy\x7b $\x7b"
    Reads text.toList reading ∧ resolve vars text = .ok resolved ∧
      (∀ r ∈ reading.references, ∀ value ∈ value? vars r, IsInert value) ∧
      (∀ n, ¬StartsAt resolved.toList n) ∧
      Manifest.ofText vars text = Manifest.ofText (fun _ => none) resolved := by
  intro vars text reading resolved
  have hreads : Reads text.toList reading := reads_iff.mpr (by decide +kernel)
  have hresolve : resolve vars text = .ok resolved := by decide +kernel
  have hinert : ∀ r ∈ reading.references, ∀ value ∈ value? vars r, IsInert value := by
    decide +kernel
  obtain ⟨hnone, -, hread⟩ := readWith_of_resolve hreads hresolve hinert
  exact ⟨hreads, hresolve, hinert, hnone, hread _ _⟩

/-- A value that starts with an opening brace makes a reference with the dollar sign before it. -/
example : resolve (fun name => if name = "A" then some "\x7bB\x7d" else none) "$$\x7bA\x7d" =
    .ok "$\x7bB\x7d" := by
  decide +kernel

end TestSelection.Substitution
