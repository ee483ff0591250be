import Mathlib.Logic.Basic
import TestSelection.Json.Reader

/-!
# Documents

In a value that is read from a text the fields of every object stand in the order of their names, each
name once (`isDocument_of_parse?`). The readers keep this at every depth: a value is put at its place
among the fields read so far.
-/
namespace TestSelection.Json

/-- The fields of every object are a table. -/
inductive IsDocument : Json → Prop
  | null : IsDocument null
  | bool {b : Bool} : IsDocument (bool b)
  | int {n : Int} : IsDocument (int n)
  | float {d : Decimal} : IsDocument (float d)
  | text {s : String} : IsDocument (text s)
  | list {items : List Json} (hitems : ∀ v ∈ items, IsDocument v) : IsDocument (list items)
  | object {fields : List (String × Json)} (hordered : Ordered.IsOrdered fields)
      (hfields : ∀ f ∈ fields, IsDocument f.2) : IsDocument (object fields)

namespace IsDocument

theorem ordered {fields : List (String × Json)} (h : (Json.object fields).IsDocument) :
    Ordered.IsOrdered fields := by
  cases h with
  | object hordered _ => exact hordered

/-- A document stays one when a field is put. -/
theorem insert {name : String} {v : Json} {fields : List (String × Json)}
    (h : (Json.object fields).IsDocument) (hv : v.IsDocument) :
    (Json.object (Ordered.insert name v fields)).IsDocument := by
  cases h with
  | object hordered hfields =>
      refine .object (Ordered.isOrdered_insert hordered) fun f hf => ?_
      rcases Ordered.mem_insert hf with rfl | hf
      · exact hv
      · exact hfields f hf

theorem field? {name : String} {v w : Json} (h : v.IsDocument) (hw : v.field? name = some w) :
    w.IsDocument := by
  cases h with
  | object _ hfields =>
      obtain ⟨_, _, rfl, _⟩ := List.lookup_eq_some_iff.mp hw
      exact hfields (name, w) List.mem_append_cons_self
  | _ => cases hw

end IsDocument

/-! ## Readers -/

theorem isDocument_of_numberOfText? {cs : List Char} {v : Json} (h : numberOfText? cs = some v) :
    v.IsDocument := by
  unfold numberOfText? at h
  dsimp only at h
  -- the sign first; it does not matter to what follows
  split at h
  all_goals
    obtain ⟨-, h⟩ := Option.ite_none_left_eq_some.mp h
    rcases ite_eq_iff.mp h with ⟨-, h⟩ | ⟨-, h⟩
    · cases h
      exact .int
    · simp only [Option.bind_eq_bind, Option.bind_eq_some_iff] at h
      obtain ⟨_, _, _, _, h⟩ := h
      cases h
      exact .float

/-- With that much fuel the three readers give documents, where what was read before is one. -/
structure ReadsDocuments (fuel : Nat) : Prop where
  value {cs rest : List Char} {v : Json} : readValue? fuel cs = some (v, rest) → v.IsDocument
  items {read : List Json} {cs rest : List Char} {v : Json} : (∀ w ∈ read, w.IsDocument) →
    readItems? fuel read cs = some (v, rest) → v.IsDocument
  fields {read : List (String × Json)} {cs rest : List Char} {v : Json} : (object read).IsDocument →
    readFields? fuel read cs = some (v, rest) → v.IsDocument

namespace ReadsDocuments

variable {fuel : Nat} {cs rest : List Char} {v : Json}

theorem value_succ (ih : ReadsDocuments fuel) (h : readValue? (fuel + 1) cs = some (v, rest)) :
    v.IsDocument := by
  rw [readValue?] at h
  -- the three words, a text, a list, an object, and a number for any other start
  split at h
  · cases h
    exact .null
  · cases h
    exact .bool
  · cases h
    exact .bool
  · obtain ⟨_, _, h⟩ := Option.bind_eq_some_iff.mp h
    cases h
    exact .text
  · split at h
    · cases h
      exact .list (List.forall_mem_nil _)
    · exact ih.items (List.forall_mem_nil _) h
  · split at h
    · cases h
      exact .object .nil (List.forall_mem_nil _)
    · exact ih.fields (.object .nil (List.forall_mem_nil _)) h
  · obtain ⟨_, hn, h⟩ := Option.bind_eq_some_iff.mp h
    cases h
    exact isDocument_of_numberOfText? hn

theorem items_succ (ih : ReadsDocuments fuel) {read : List Json} (hread : ∀ w ∈ read, w.IsDocument)
    (h : readItems? (fuel + 1) read cs = some (v, rest)) : v.IsDocument := by
  rw [readItems?] at h
  obtain ⟨⟨w, behind⟩, hw, h⟩ := Option.bind_eq_some_iff.mp h
  have hread : ∀ x ∈ w :: read, x.IsDocument := List.forall_mem_cons.mpr ⟨ih.value hw, hread⟩
  dsimp only at h
  split at h
  · exact ih.items hread h
  · cases h
    exact .list fun x hx => hread x (List.mem_reverse.mp hx)
  · cases h

theorem fields_succ (ih : ReadsDocuments fuel) {read : List (String × Json)}
    (hread : (object read).IsDocument) (h : readFields? (fuel + 1) read cs = some (v, rest)) :
    v.IsDocument := by
  rw [readFields?] at h
  split at h
  · obtain ⟨⟨name, behindName⟩, _, h⟩ := Option.bind_eq_some_iff.mp h
    dsimp only at h
    split at h
    · obtain ⟨⟨w, behind⟩, hw, h⟩ := Option.bind_eq_some_iff.mp h
      have hread : (object (Ordered.insert name w read)).IsDocument := hread.insert (ih.value hw)
      dsimp only at h
      split at h
      · exact ih.fields hread h
      · cases h
        exact hread
      · cases h
    · cases h
  · cases h

end ReadsDocuments

theorem readsDocuments (fuel : Nat) : ReadsDocuments fuel := by
  induction fuel with
  | zero => exact ⟨nofun, nofun, nofun⟩
  | succ fuel ih => exact ⟨ih.value_succ, ih.items_succ, ih.fields_succ⟩

/-- A value that is read from a text is a document. -/
theorem isDocument_of_parse? {s : String} {v : Json} (h : parse? s = some v) : v.IsDocument := by
  obtain ⟨⟨w, rest⟩, hw, h⟩ := Option.bind_eq_some_iff.mp h
  obtain ⟨-, hv⟩ := Option.ite_none_right_eq_some.mp h
  cases hv
  exact (readsDocuments _).value hw

end TestSelection.Json
