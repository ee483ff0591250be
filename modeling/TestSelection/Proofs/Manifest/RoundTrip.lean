import TestSelection.Manifest.FromJson
import TestSelection.Manifest.ToJson
import TestSelection.Proofs.Json.Decode
import TestSelection.Proofs.Ordered
import TestSelection.Suite

/-!
# Manifests are read back

A manifest that is written as JSON and read again is the same manifest (`Manifest.decode_toJson`), so
the same suite is built from it. Values of markers are told apart by their shape alone, which their
writer keeps; a field that is left out meets its default.
-/
namespace TestSelection

open Json

/-! ## Fields that are left out -/

namespace Json

variable {α β δ : Type} {r : RecordReader δ α}

/-- A field that may be left out is read as it was written, from the draft in which it was not met. -/
theorem Reads.optionalField {γ : Type} {name : String} {write : β → Json} {met : β → γ}
    {fields : List (String × Json)} {d : δ} (f : Option γ → δ) (value : Option β)
    (head : ∀ b, r.readField (f none) name (write b) = .ok (f (some (met b))))
    (tail : Reads r (f (value.map met)) fields d) :
    Reads r (f none) (Json.optionalField name (value.map write) ++ fields) d := by
  cases value with
  | none => exact tail
  | some b => exact .cons (head b) tail

theorem lookup_optionalField (name : String) (value : Option Json) :
    (optionalField name value).lookup name = value := by
  cases value with
  | none => rfl
  | some v => exact List.lookup_cons_self

theorem lookup_optionalField_ne {name other : String} (h : other ≠ name) (value : Option Json) :
    (optionalField name value).lookup other = none := by
  cases value with
  | none => rfl
  | some v => simp [optionalField, List.lookup_cons, beq_false_of_ne h]

end Json

theorem join_map_some {α : Type} (value : Option α) : (value.map some).join = value := by
  cases value <;> rfl

/-! ## Markers -/

namespace MarkerValue

theorem listToJson_eq_map (vs : List MarkerValue) : listToJson vs = vs.map toJson := by
  induction vs with
  | nil => rfl
  | cons v vs ih => rw [listToJson, ih, List.map_cons]

mutual

theorem ofJson?_toJson (v : MarkerValue) : ofJson? v.toJson = some v := by
  cases v with
  | bool b => rfl
  | integer n =>
      rw [toJson, ofJson?, if_pos ⟨n.le_toInt, n.toInt_lt⟩, Int64.ofInt_toInt]
  | text s => rfl
  | list vs => rw [toJson, ofJson?, listOfJson?_listToJson vs, Option.map_some]

theorem listOfJson?_listToJson (vs : List MarkerValue) : listOfJson? (listToJson vs) = some vs := by
  cases vs with
  | nil => rfl
  | cons v vs => rw [listToJson, listOfJson?, ofJson?_toJson v, listOfJson?_listToJson vs]

end

end MarkerValue

namespace Keywords

theorem valuesOfJson?_map_toJson (entries : List (String × MarkerValue)) :
    valuesOfJson? (entries.map fun e => (e.1, e.2.toJson)) = some entries := by
  induction entries with
  | nil => rfl
  | cons e entries ih => rw [List.map_cons, valuesOfJson?, MarkerValue.ofJson?_toJson, ih]

theorem ofJson?_toJson (k : Keywords) : ofJson? k.toJson = some k := by
  rw [toJson, ofJson?, valuesOfJson?_map_toJson, Option.map_some]
  exact congrArg some (Keywords.ext (Ordered.ofList_eq_self k.ordered))

end Keywords

namespace MarkerEntry

theorem ofJson?_toJson (e : MarkerEntry) : ofJson? e.toJson = some e := by
  cases e with
  | bare name => rfl
  | call name args kwargs =>
      have hargs : argsOfJson? (some (.list (args.map MarkerValue.toJson))) = some args := by
        rw [argsOfJson?, ← MarkerValue.listToJson_eq_map, MarkerValue.listOfJson?_listToJson]
      have hkwargs : kwargsOfJson? (some kwargs.toJson) = some kwargs := kwargs.ofJson?_toJson
      simp [toJson, ofJson?, List.lookup_cons, hargs, hkwargs]

theorem decode_toJson (e : MarkerEntry) : decode e.toJson = .ok e := by
  rw [decode, ofJson?_toJson]

end MarkerEntry

-- The fields of an object stand in the order of their names, so a draft is filled in that order.
theorem TestEntry.decode_toJson (t : TestEntry) : decode t.toJson = .ok t :=
  decodeRecord_object
    (.cons (put_eq_ok (decodeList_map MarkerEntry.decode_toJson t.markers)) <|
      .cons rfl <| .cons rfl .nil) rfl

/-! ## Settings -/

theorem CategoryRule.decode_toJson (r : CategoryRule) : decode r.toJson = .ok r :=
  decodeRecord_object
    (.cons (put_eq_ok (decodeList_map decodeText_text r.subsystems)) <|
      .cons rfl .nil) rfl

theorem NetworkSettings.decode_toJson (n : NetworkSettings) : decode n.toJson = .ok n :=
  decodeRecord_object
    (.cons (put_eq_ok (decodeUInt64_toNat n.connectTimeout)) <|
      .cons (put_eq_ok (decodeList_ofTexts decodeAddress_text n.externalAddresses)) <|
      .cons (put_eq_ok (decodeUInt16_toNat n.externalPort)) <|
      .cons (put_eq_ok (decodeList_map decodeUInt16_toNat n.localPorts)) .nil) rfl

theorem Settings.decode_toJson (s : Settings) : decode s.toJson = .ok s := by
  have hcategories (rs : List CategoryRule) : decodeOption (decodeList CategoryRule.decode)
      (.list (rs.map CategoryRule.toJson)) = .ok (some rs) :=
    decodeOption_eq_ok nofun (decodeList_map CategoryRule.decode_toJson rs)
  have hnetwork (n : NetworkSettings) :
      decodeOption NetworkSettings.decode n.toJson = .ok (some n) :=
    decodeOption_eq_ok nofun n.decode_toJson
  rw [toJson, List.append_assoc]
  -- each optional field names the draft in which it is put, with the fields before it
  refine decodeRecord_object
    (.optionalField (fun categories => ({ categories } : Draft)) s.categories
      (fun rs => put_eq_ok (hcategories rs)) <|
    .optionalField (fun network => ({ categories := s.categories.map some, network } : Draft))
      s.network (fun n => put_eq_ok (hnetwork n)) <|
    .cons rfl <| .cons rfl <| .cons rfl .nil) ?_
  simp [reader, Draft.finish, join_map_some]

theorem Settings.field?_network (s : Settings) :
    s.toJson.field? "network" = s.network.map NetworkSettings.toJson := by
  rw [toJson, field?, List.lookup_append, List.lookup_append, lookup_optionalField,
    lookup_optionalField_ne (by decide), Option.none_or]
  exact Option.or_none

theorem Settings.field?_categories (s : Settings) : s.toJson.field? "categories" =
    s.categories.map fun rs => .list (rs.map CategoryRule.toJson) := by
  rw [toJson, field?, List.lookup_append, List.lookup_append, lookup_optionalField,
    lookup_optionalField_ne (by decide), Option.or_none]
  exact Option.or_none

/-! ## Manifests -/

namespace Manifest

/-- The settings as far as they are written: not at all when they are all at their defaults. -/
def writtenSettings (m : Manifest) : Option Settings :=
  if m.settings = {} then none else some m.settings

theorem getD_writtenSettings (m : Manifest) : m.writtenSettings.getD {} = m.settings := by
  unfold writtenSettings
  split
  · next h => exact h.symm
  · rfl

theorem toJson_eq (m : Manifest) : m.toJson = .object (
    optionalField "name" (m.name.map .text) ++ (
      optionalField "settings" (m.writtenSettings.map Settings.toJson) ++ [
        ("tests", .list (m.tests.map TestEntry.toJson)),
        ("version", .text m.version)])) := by
  rw [toJson, writtenSettings, List.append_assoc, apply_ite (Option.map Settings.toJson)]
  rfl

theorem decode_toJson (m : Manifest) : decode m.toJson = .ok m := by
  have htests := decodeList_map TestEntry.decode_toJson m.tests
  rw [toJson_eq]
  refine decodeRecord_object
    (.optionalField (fun name => ({ name } : Draft)) m.name
      (fun s => put_eq_ok (b := some s) rfl) <|
    .optionalField (fun settings => ({ name := m.name.map some, settings } : Draft))
      m.writtenSettings (fun s => put_eq_ok s.decode_toJson) <|
    .cons (put_eq_ok htests) <| .cons rfl .nil) ?_
  simp only [reader, Draft.finish, required, join_map_some, Option.map_id_fun', id,
    getD_writtenSettings, Option.getD_some]
  rfl

theorem field?_name (m : Manifest) : m.toJson.field? "name" = m.name.map .text := by
  rw [toJson_eq, field?, List.lookup_append, List.lookup_append, lookup_optionalField,
    lookup_optionalField_ne (by decide), Option.none_or]
  exact Option.or_none

theorem field?_settings (m : Manifest) :
    m.toJson.field? "settings" = m.writtenSettings.map Settings.toJson := by
  rw [toJson_eq, field?, List.lookup_append, List.lookup_append, lookup_optionalField,
    lookup_optionalField_ne (by decide), Option.none_or]
  exact Option.or_none

/-- A section of the settings is found in the manifest, if it is no part of the default settings. -/
theorem bind_field?_settings (m : Manifest) {part : String}
    (h : ({} : Settings).toJson.field? part = none) :
    (m.toJson.field? "settings").bind (Json.field? part) = m.settings.toJson.field? part := by
  rw [field?_settings, writtenSettings]
  split
  · next hdefault => rw [hdefault, h, Option.map_none, Option.bind_none]
  · rw [Option.map_some, Option.bind_some]

/-- A manifest is read back as it was, and so is its suite; a name that is not there, settings at their
defaults and sections that are not there are not written. -/
theorem roundTrip (m : Manifest) :
    decode m.toJson = .ok m ∧
    (∀ strict, (decode m.toJson).map (Suite.build · strict) = .ok (Suite.build m strict)) ∧
    (m.toJson.field? "name" = none ↔ m.name = none) ∧
    (m.toJson.field? "settings" = none ↔ m.settings = {}) ∧
    ((m.toJson.field? "settings").bind (Json.field? "network") = none ↔ m.settings.network = none) ∧
    ((m.toJson.field? "settings").bind (Json.field? "categories") = none ↔
      m.settings.categories = none) := by
  refine ⟨m.decode_toJson, fun strict => ?_, ?_, ?_, ?_, ?_⟩
  · rw [decode_toJson]
    rfl
  · rw [field?_name, Option.map_eq_none_iff]
  · rw [field?_settings, Option.map_eq_none_iff, writtenSettings]
    simp
  · rw [m.bind_field?_settings rfl, Settings.field?_network, Option.map_eq_none_iff]
  · rw [m.bind_field?_settings rfl, Settings.field?_categories, Option.map_eq_none_iff]

end Manifest

end TestSelection
