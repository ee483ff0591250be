import Mathlib.Data.Set.List
import TestSelection.Proofs.Json.Document
import TestSelection.Proofs.Manifest.RoundTrip

/-!
# The shapes of arguments and entries

A value is read as an argument of a marker when it is what that argument is written as
(`MarkerValue.ofJson?_eq_some_iff`), so nothing of it is lost. An entry keeps its name, its arguments and
its keywords, and nothing else (`MarkerEntry.read_exactly`).
-/
namespace TestSelection

open Json

namespace Json

/-- Built from booleans, integers of 64 bits, texts and lists alone, at every depth. -/
inductive IsArgument : Json → Prop
  | bool {b : Bool} : IsArgument (bool b)
  | int {n : Int} (hlow : -(1 <<< 63 : Nat) ≤ n) (hhigh : n < (1 <<< 63 : Nat)) : IsArgument (int n)
  | text {s : String} : IsArgument (text s)
  | list {items : List Json} (hitems : ∀ v ∈ items, IsArgument v) : IsArgument (list items)

inductive IsArgumentList : Json → Prop
  | intro {items : List Json} (hitems : ∀ v ∈ items, v.IsArgument) : IsArgumentList (list items)

inductive IsArgumentTable : Json → Prop
  | intro {fields : List (String × Json)} (hfields : ∀ f ∈ fields, f.2.IsArgument) :
      IsArgumentTable (object fields)

/-- A bare name, or an object with a name whose arguments and keywords, as far as they are present, are
built from arguments. -/
inductive IsEntry : Json → Prop
  | bare {name : String} : IsEntry (text name)
  | call {fields : List (String × Json)} {name : String} (hname : fields.lookup "name" = some (text name))
      (hargs : ∀ v, fields.lookup "args" = some v → v.IsArgumentList)
      (hkwargs : ∀ v, fields.lookup "kwargs" = some v → v.IsArgumentTable) : IsEntry (object fields)

end Json

/-! ## Arguments -/

namespace MarkerValue

mutual

theorem toJson_of_ofJson? {a : MarkerValue} : (v : Json) → ofJson? v = some a → a.toJson = v
  | .bool b, h => by
      cases h
      rfl
  | .int n, h => by
      rw [ofJson?] at h
      obtain ⟨⟨hlow, hhigh⟩, h⟩ := Option.ite_none_right_eq_some.mp h
      cases h
      rw [toJson, Int64.toInt_ofInt_of_le hlow hhigh]
  | .text s, h => by
      cases h
      rfl
  | .list items, h => by
      rw [ofJson?, Option.map_eq_some_iff] at h
      obtain ⟨as, has, rfl⟩ := h
      rw [toJson, listToJson_of_listOfJson? items has]

theorem listToJson_of_listOfJson? {as : List MarkerValue} :
    (vs : List Json) → listOfJson? vs = some as → listToJson as = vs
  | [], h => by
      cases h
      rfl
  | v :: vs, h => by
      rw [listOfJson?] at h
      split at h
      · next a as hv hvs =>
        cases h
        rw [listToJson, toJson_of_ofJson? v hv, listToJson_of_listOfJson? vs hvs]
      · cases h

end

/-- Reading is the inverse of writing, as far as it succeeds. -/
theorem ofJson?_eq_some_iff {v : Json} {a : MarkerValue} : ofJson? v = some a ↔ a.toJson = v :=
  ⟨toJson_of_ofJson? v, fun h => h ▸ ofJson?_toJson a⟩

theorem listOfJson?_eq_some_iff {vs : List Json} {as : List MarkerValue} :
    listOfJson? vs = some as ↔ as.map toJson = vs := by
  rw [← listToJson_eq_map]
  exact ⟨listToJson_of_listOfJson? vs, fun h => h ▸ listOfJson?_listToJson as⟩

theorem isArgument_toJson : (a : MarkerValue) → a.toJson.IsArgument
  | bool _ => .bool
  | integer n => .int n.le_toInt n.toInt_lt
  | text _ => .text
  | list as => by
      rw [toJson, listToJson_eq_map]
      refine .list fun v hv => ?_
      obtain ⟨a, ha, rfl⟩ := List.mem_map.mp hv
      exact isArgument_toJson a

theorem exists_toJson {v : Json} (h : v.IsArgument) : ∃ a : MarkerValue, a.toJson = v := by
  induction h with
  | bool => exact ⟨.bool _, rfl⟩
  | int hlow hhigh =>
      exact ⟨.integer (Int64.ofInt _), by rw [toJson, Int64.toInt_ofInt_of_le hlow hhigh]⟩
  | text => exact ⟨.text _, rfl⟩
  | list _ ih =>
      obtain ⟨as, rfl⟩ := (Set.ext_iff.mp (Set.range_list_map toJson) _).mpr ih
      exact ⟨.list as, by rw [toJson, listToJson_eq_map]⟩

/-- The values that are read are those of the shape. -/
theorem exists_ofJson?_iff {v : Json} : (∃ a, ofJson? v = some a) ↔ v.IsArgument := by
  simp only [ofJson?_eq_some_iff]
  exact ⟨fun ⟨a, ha⟩ => ha ▸ isArgument_toJson a, exists_toJson⟩

theorem exists_listOfJson?_iff {vs : List Json} :
    (∃ as, listOfJson? vs = some as) ↔ ∀ v ∈ vs, v.IsArgument := by
  simp only [listOfJson?_eq_some_iff, ← exists_ofJson?_iff, ofJson?_eq_some_iff]
  exact Set.ext_iff.mp (Set.range_list_map toJson) vs

theorem decode_eq_ok_iff {v : Json} {a : MarkerValue} : decode v = .ok a ↔ ofJson? v = some a := by
  cases h : ofJson? v <;> simp [decode, h]

end MarkerValue

/-! ## Keywords -/

namespace Keywords

theorem valuesOfJson?_eq_some_iff {fields : List (String × Json)}
    {entries : List (String × MarkerValue)} :
    valuesOfJson? fields = some entries ↔ (entries.map fun e => (e.1, e.2.toJson)) = fields := by
  refine ⟨fun h => ?_, fun h => h ▸ valuesOfJson?_map_toJson entries⟩
  fun_induction valuesOfJson? fields generalizing entries with
  | case1 =>
      cases h
      rfl
  | case2 key v rest a as hrest hv ih =>
      cases h
      rw [List.map_cons, MarkerValue.ofJson?_eq_some_iff.mp hv, ih hrest]
  | case3 => cases h

theorem exists_valuesOfJson?_iff {fields : List (String × Json)} :
    (∃ entries, valuesOfJson? fields = some entries) ↔ ∀ f ∈ fields, f.2.IsArgument := by
  simp only [valuesOfJson?_eq_some_iff, ← MarkerValue.exists_ofJson?_iff,
    MarkerValue.ofJson?_eq_some_iff]
  refine (Set.ext_iff.mp (Set.range_list_map _) fields).trans (forall₂_congr fun f _ => ?_)
  exact ⟨fun ⟨e, he⟩ => ⟨e.2, congrArg Prod.snd he⟩, fun ⟨a, ha⟩ => ⟨(f.1, a), Prod.ext rfl ha⟩⟩

theorem exists_ofJson?_iff {v : Json} : (∃ k, ofJson? v = some k) ↔ v.IsArgumentTable := by
  constructor
  · rintro ⟨k, h⟩
    cases v with
    | object fields =>
        obtain ⟨entries, hentries, _⟩ := Option.map_eq_some_iff.mp h
        exact .intro (exists_valuesOfJson?_iff.mp ⟨entries, hentries⟩)
    | _ => cases h
  · rintro ⟨hfields⟩
    obtain ⟨entries, hentries⟩ := exists_valuesOfJson?_iff.mpr hfields
    exact ⟨ofList entries, by rw [ofJson?, hentries, Option.map_some]⟩

theorem toJson_of_ofJson? {v : Json} {k : Keywords} (hv : v.IsDocument) (h : ofJson? v = some k) :
    k.toJson = v := by
  cases v with
  | object fields =>
      obtain ⟨entries, hentries, rfl⟩ := Option.map_eq_some_iff.mp h
      obtain rfl := valuesOfJson?_eq_some_iff.mp hentries
      -- the fields of a document are already a table, so none is moved or replaced
      have hordered := hv.ordered
      rw [Ordered.IsOrdered, List.pairwise_map] at hordered
      have hself : (ofList entries).entries = entries := Ordered.ofList_eq_self hordered
      rw [toJson, hself]
  | _ => cases h

end Keywords

/-! ## Entries -/

namespace MarkerEntry

theorem exists_argsOfJson?_iff {v : Option Json} :
    (∃ args, argsOfJson? v = some args) ↔ ∀ w, v = some w → w.IsArgumentList := by
  cases v with
  | none => exact ⟨fun _ => nofun, fun _ => ⟨[], rfl⟩⟩
  | some v =>
      simp only [Option.some.injEq, forall_eq']
      constructor
      · rintro ⟨args, h⟩
        cases v with
        | list items => exact .intro (MarkerValue.exists_listOfJson?_iff.mp ⟨args, h⟩)
        | _ => cases h
      · rintro ⟨hitems⟩
        exact MarkerValue.exists_listOfJson?_iff.mpr hitems

theorem toJson_of_argsOfJson? {v : Option Json} {args : List MarkerValue}
    (h : argsOfJson? v = some args) :
    Json.list (args.map MarkerValue.toJson) = v.getD (.list []) := by
  unfold argsOfJson? at h
  split at h
  · cases h
    rfl
  · rw [MarkerValue.listOfJson?_eq_some_iff.mp h, Option.getD_some]
  · cases h

theorem exists_kwargsOfJson?_iff {v : Option Json} :
    (∃ kwargs, kwargsOfJson? v = some kwargs) ↔ ∀ w, v = some w → w.IsArgumentTable := by
  cases v with
  | none => exact ⟨fun _ => nofun, fun _ => ⟨.empty, rfl⟩⟩
  | some v =>
      simp only [Option.some.injEq, forall_eq']
      exact Keywords.exists_ofJson?_iff

theorem toJson_of_kwargsOfJson? {v : Option Json} {kwargs : Keywords}
    (hv : ∀ w, v = some w → w.IsDocument) (h : kwargsOfJson? v = some kwargs) :
    kwargs.toJson = v.getD (.object []) := by
  cases v with
  | none =>
      cases h
      rfl
  | some v => exact Keywords.toJson_of_ofJson? (hv v rfl) h

theorem ofJson?_eq_some_iff {v : Json} {e : MarkerEntry} : ofJson? v = some e ↔
    (∃ name, v = .text name ∧ e = bare name) ∨
    ∃ fields name args kwargs, v = .object fields ∧ e = call name args kwargs ∧
      fields.lookup "name" = some (.text name) ∧ argsOfJson? (fields.lookup "args") = some args ∧
      kwargsOfJson? (fields.lookup "kwargs") = some kwargs := by
  constructor
  · intro h
    unfold ofJson? at h
    split at h
    · next name =>
      cases h
      exact .inl ⟨name, rfl, rfl⟩
    · split at h
      · next fields _ _ _ name args kwargs hname hargs hkwargs =>
        cases h
        exact .inr ⟨fields, name, args, kwargs, rfl, rfl, hname, hargs, hkwargs⟩
      · cases h
    · cases h
  · rintro (⟨name, rfl, rfl⟩ | ⟨fields, name, args, kwargs, rfl, rfl, hname, hargs, hkwargs⟩)
    · rfl
    · rw [ofJson?, hname, hargs, hkwargs]

theorem exists_ofJson?_iff {v : Json} : (∃ e, ofJson? v = some e) ↔ v.IsEntry := by
  constructor
  · rintro ⟨e, h⟩
    rcases ofJson?_eq_some_iff.mp h with ⟨name, rfl, rfl⟩ |
      ⟨fields, name, args, kwargs, rfl, rfl, hname, hargs, hkwargs⟩
    · exact .bare
    · exact .call hname (exists_argsOfJson?_iff.mp ⟨args, hargs⟩)
        (exists_kwargsOfJson?_iff.mp ⟨kwargs, hkwargs⟩)
  · intro h
    cases h with
    | bare => exact ⟨_, rfl⟩
    | call hname hargs hkwargs =>
        obtain ⟨args, hargs⟩ := exists_argsOfJson?_iff.mpr hargs
        obtain ⟨kwargs, hkwargs⟩ := exists_kwargsOfJson?_iff.mpr hkwargs
        exact ⟨.call _ args kwargs, by rw [ofJson?, hname, hargs, hkwargs]⟩

theorem decode_eq_ok_iff {v : Json} {e : MarkerEntry} : decode v = .ok e ↔ ofJson? v = some e := by
  cases h : ofJson? v <;> simp [decode, h]

end MarkerEntry

/-- Arguments and entries are read exactly or not at all. What an entry is written as has the fields of the
object it was read from, those of other names apart; an absent one is empty. Only the keywords need a
document, since their order is the one of the table. -/
theorem MarkerEntry.read_exactly (v : Json) :
    ((∃ a, MarkerValue.decode v = .ok a) ↔ v.IsArgument) ∧
    (∀ a, MarkerValue.decode v = .ok a → a.toJson = v) ∧
    ((∃ e, MarkerEntry.decode v = .ok e) ↔ v.IsEntry) ∧
    ∀ e, MarkerEntry.decode v = .ok e →
      v = .text e.name ∧ e.toJson = v ∨
      ∃ fields, v = .object fields ∧ fields.lookup "name" = some (.text e.name) ∧
        (v.IsDocument → e.toJson = .object [
          ("args", (fields.lookup "args").getD (.list [])),
          ("kwargs", (fields.lookup "kwargs").getD (.object [])),
          ("name", .text e.name)]) := by
  simp only [MarkerValue.decode_eq_ok_iff, MarkerEntry.decode_eq_ok_iff]
  refine ⟨MarkerValue.exists_ofJson?_iff, fun a => MarkerValue.toJson_of_ofJson? v,
    MarkerEntry.exists_ofJson?_iff, fun e he => ?_⟩
  rcases MarkerEntry.ofJson?_eq_some_iff.mp he with ⟨name, rfl, rfl⟩ |
    ⟨fields, name, args, kwargs, rfl, rfl, hname, hargs, hkwargs⟩
  · exact .inl ⟨rfl, rfl⟩
  · refine .inr ⟨fields, rfl, hname, fun hv => ?_⟩
    have hdocument : ∀ w, fields.lookup "kwargs" = some w → w.IsDocument := fun w hw => hv.field? hw
    rw [MarkerEntry.toJson, MarkerEntry.toJson_of_argsOfJson? hargs,
      MarkerEntry.toJson_of_kwargsOfJson? hdocument hkwargs, MarkerEntry.name]

/-- The smallest number below a list, and a call that has a field of another name and no keywords. -/
theorem MarkerEntry.read_exactly_call :
    (∃ a, MarkerValue.decode (.list [.list [.int (-9223372036854775808)]]) = .ok a ∧
      a.toJson = .list [.list [.int (-9223372036854775808)]]) ∧
    ∃ e, MarkerEntry.decode (.object [("args", .list [.text "lo"]), ("name", .text "slow"),
        ("since", .null)]) = .ok e ∧
      e.toJson = .object [("args", .list [.text "lo"]), ("kwargs", .object []),
        ("name", .text "slow")] := by
  have hvalue : MarkerValue.decode (.list [.list [.int (-9223372036854775808)]]) =
      .ok (.list [.list [.integer Int64.minValue]]) := rfl
  have hentry : MarkerEntry.decode (.object [("args", .list [.text "lo"]), ("name", .text "slow"),
      ("since", .null)]) = .ok (.call "slow" [.text "lo"] .empty) := rfl
  refine ⟨⟨_, hvalue, (MarkerEntry.read_exactly _).2.1 _ hvalue⟩, _, hentry, ?_⟩
  obtain ⟨hv, _⟩ | ⟨fields, hv, _, h⟩ := (MarkerEntry.read_exactly _).2.2.2 _ hentry
  · cases hv
  · cases hv
    refine h (.object (by unfold Ordered.IsOrdered; decide) ?_)
    rintro f (_ | ⟨_, _ | ⟨_, _ | ⟨_, ⟨⟩⟩⟩⟩)
    · exact .list (List.forall_mem_singleton.mpr .text)
    · exact .text
    · exact .null

end TestSelection
