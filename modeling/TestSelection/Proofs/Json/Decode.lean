import TestSelection.Json.Decode
import TestSelection.Proofs.Address.Text

/-!
# Values that are read back

What the readers of values make of written values, and how the fields of a record are read one after
another into a draft (`Reads`).
-/
namespace TestSelection.Json

open Decoding

variable {α β δ : Type}

/-! ## Values -/

theorem decodeText_text (s : String) : decodeText (.text s) = .ok s :=
  rfl

theorem decodeUnsigned_ofNat {bits n : Nat} (h : n < 1 <<< bits) :
    decodeUnsigned bits (.ofNat n) = .ok n :=
  if_pos ⟨Int.natCast_nonneg n, Int.ofNat_lt.mpr h⟩

theorem decodeUInt16_toNat (n : UInt16) : decodeUInt16 (.ofNat n.toNat) = .ok n := by
  rw [decodeUInt16, decodeUnsigned_ofNat n.toNat_lt]
  exact congrArg Except.ok UInt16.ofNat_toNat

theorem decodeUInt64_toNat (n : UInt64) : decodeUInt64 (.ofNat n.toNat) = .ok n := by
  rw [decodeUInt64, decodeUnsigned_ofNat n.toNat_lt]
  exact congrArg Except.ok UInt64.ofNat_toNat

theorem decodeAddress_text (a : Address) : decodeAddress (.text a.text) = .ok a := by
  rw [decodeAddress, Address.parse?_text]

theorem decodeList_map {item : Json → Except Problem α} {write : α → Json}
    (h : ∀ a, item (write a) = .ok a) (as : List α) :
    decodeList item (.list (as.map write)) = .ok as := by
  rw [decodeList]
  induction as with
  | nil => rfl
  | cons a as ih =>
      rw [List.map_cons, List.mapM_cons, h, ih]
      rfl

theorem decodeList_ofTexts {item : Json → Except Problem α} {write : α → String}
    (h : ∀ a, item (.text (write a)) = .ok a) (as : List α) :
    decodeList item (.ofTexts (as.map write)) = .ok as := by
  rw [ofTexts, List.map_map]
  exact decodeList_map h as

theorem decodeOption_eq_ok {value : Json → Except Problem α} {v : Json} {a : α}
    (hv : v ≠ null) (h : value v = .ok a) : decodeOption value v = .ok (some a) := by
  rw [decodeOption, h]
  · rfl
  · exact hv

/-! ## Records -/

/-- Reading some fields takes one draft to another. -/
inductive Reads (r : RecordReader δ α) : δ → List (String × Json) → δ → Prop
  | nil {d : δ} : Reads r d [] d
  | cons {d d₁ d₂ : δ} {name : String} {v : Json} {rest : List (String × Json)}
      (head : r.readField d name v = .ok d₁) (tail : Reads r d₁ rest d₂) :
      Reads r d ((name, v) :: rest) d₂

variable {r : RecordReader δ α}

theorem Reads.foldlM {fields : List (String × Json)} {d d' : δ} (h : Reads r d fields d') :
    fields.foldlM (fun draft f => r.readField draft f.1 f.2) d = .ok d' := by
  induction h with
  | nil => rfl
  | cons head _ ih =>
      rw [List.foldlM_cons, head]
      exact ih

theorem decodeRecord_object {fields : List (String × Json)} {d : δ} {a : α}
    (h : Reads r r.blank fields d) (hfinish : r.finish d = .ok a) :
    decodeRecord r (.object fields) = .ok a := by
  rw [decodeRecord, RecordReader.readFields, h.foldlM]
  exact congrArg (Except.mapError Problem.missingField) hfinish

/-- The step of a record reader that puts a value into the draft. -/
theorem put_eq_ok {x : Except Problem β} {b : β} {put : β → δ} (h : x = .ok b) :
    (do return put (← x)) = Except.ok (put b) := by
  rw [h]
  rfl

end TestSelection.Json
