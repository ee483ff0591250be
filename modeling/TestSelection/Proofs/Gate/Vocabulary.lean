import Mathlib.Data.List.Nodup
import TestSelection.Proofs.Gate.Rule
import TestSelection.Proofs.Marker.Argument

/-!
# The vocabulary of the gate

Each rule of the gate looks for the markers of one name. On an item whose markers were all read, that name
is attached just when the rule finds a marker (`vocabulary_agrees`). This is a property of reading: a marker
outside the vocabulary that is put together by hand may have a name of the vocabulary, and no rule finds it.
-/
namespace TestSelection

/-- A marker that was read from a name and some arguments. -/
def Marker.IsRead (m : Marker) : Prop :=
  ∃ name args kwargs, Marker.parse name args kwargs = .ok m

/-! ## The names of the rules -/

namespace Gate.Rule

/-- The name of the markers that a rule looks at. -/
def markerName : Rule → String
  | destructive => Marker.destructiveName
  | expensive => Marker.expensiveName
  | root => Marker.needsRootName
  | binaries => Marker.needsBinariesName
  | network => Marker.needsNetworkName

/-- Whether a rule has a marker to ask about, by its own test. -/
def finds (markers : List Marker) : Rule → Bool
  | destructive => .destructive ∈ markers
  | expensive => .expensive ∈ markers
  | root => .needsRoot ∈ markers
  | binaries => (binariesOf? markers).isSome
  | network => (networkOf? markers).isSome

theorem contains_iff_exists_markerName {name : String} :
    MarkerRegistry.standard.contains name ↔ ∃ r : Rule, r.markerName = name := by
  rw [Marker.standard_contains_iff]
  constructor
  · rintro (rfl | rfl | rfl | rfl | rfl)
    · exact ⟨destructive, rfl⟩
    · exact ⟨expensive, rfl⟩
    · exact ⟨root, rfl⟩
    · exact ⟨binaries, rfl⟩
    · exact ⟨network, rfl⟩
  · rintro ⟨r, rfl⟩
    cases r <;> simp [markerName]

theorem markerName_injective : Function.Injective markerName := by
  intro r r' h
  have hnames : (order.map markerName).Nodup := by decide
  have hmem (r : Rule) : r ∈ order := by cases r <;> decide
  exact List.inj_on_of_nodup_map hnames (hmem r) (hmem r') h

theorem name_of_of? {m : Marker} {r : Rule} (h : of? m = some r) : m.name = r.markerName := by
  cases m <;> cases h <;> rfl

theorem finds_iff_first? {r : Rule} {markers : List Marker} :
    r.finds markers ↔ (r.first? markers).isSome := by
  cases r with
  | destructive => simp [finds, first?_destructive]
  | expensive => simp [finds, first?_expensive]
  | root => simp [finds, first?_root]
  | binaries => simp [finds, first?_binaries]
  | network => simp [finds, first?_network]

theorem finds_iff {r : Rule} {markers : List Marker} :
    r.finds markers ↔ ∃ m ∈ markers, of? m = some r := by
  rw [finds_iff_first?, first?, List.find?_isSome]
  simp only [decide_eq_true_eq]

end Gate.Rule

namespace Marker

open Gate

variable {name : String} {m : Marker}

/-! ## Names of markers that were read -/

theorem isRegistered_iff : m.isRegistered ↔ ∀ other, m ≠ unregistered other := by
  cases m <;> simp [isRegistered]

theorem IsRead.isRegistered_eq (h : m.IsRead) :
    m.isRegistered = MarkerRegistry.standard.contains m.name := by
  obtain ⟨name, args, kwargs, hread⟩ := h
  rw [name_of_parse hread, isRegistered_of_parse hread]

/-- The name of a marker that was read tells which rule looks at it. -/
theorem IsRead.name_eq_iff (h : m.IsRead) {r : Rule} :
    m.name = r.markerName ↔ Rule.of? m = some r := by
  constructor
  · intro hname
    have hcontains : MarkerRegistry.standard.contains m.name :=
      Rule.contains_iff_exists_markerName.mpr ⟨r, hname.symm⟩
    cases hr : Rule.of? m with
    | none =>
        -- Only a marker outside the vocabulary has no rule, and reading gives it no such name.
        rw [← h.isRegistered_eq, Rule.of?_eq_none_iff.mp hr] at hcontains
        cases hcontains
    | some r' => rw [Rule.markerName_injective ((Rule.name_of_of? hr).symm.trans hname)]
  · exact Rule.name_of_of?

theorem hasMarker_iff {item : TestItem} (h : ∀ m ∈ item.markers, m.IsRead) (r : Rule) :
    item.hasMarker r.markerName ↔ ∃ m ∈ item.markers, Rule.of? m = some r := by
  simp only [TestItem.hasMarker, List.any_eq_true, beq_iff_eq]
  exact exists_congr fun m => and_congr_right fun hm => (h m hm).name_eq_iff

/-! ## Reading a name alone -/

theorem named_of_plain (h : Plain name m) : m.name = name ∧ named name = .ok m := by
  cases h <;> exact ⟨rfl, rfl⟩

theorem IsRead.named_of_not_isRegistered (h : m.IsRead) (hm : ¬m.isRegistered) :
    named m.name = .ok m := by
  obtain ⟨name, args, kwargs, hread⟩ := h
  have hname : ¬MarkerRegistry.standard.contains name := isRegistered_of_parse hread ▸ hm
  have hempty : name ≠ "" := by
    rintro rfl
    cases hread
  rw [parse_of_not_contains hempty hname] at hread
  cases hread
  exact parse_of_not_contains hempty hname

theorem exists_named_of_contains (h : MarkerRegistry.standard.contains name) :
    ∃ m, named name = .ok m ∧ m.isRegistered := by
  rcases standard_contains_iff.mp h with rfl | rfl | rfl | rfl | rfl
  · exact ⟨destructive, rfl, rfl⟩
  · exact ⟨expensive, rfl, rfl⟩
  · exact ⟨needsRoot, rfl, rfl⟩
  · exact ⟨needsBinaries [] false none, rfl, rfl⟩
  · exact ⟨needsNetwork false, rfl, rfl⟩

/-- A marker that is read has the name that it is read from; it belongs to the vocabulary just when the
registry lists that name, which is when it has a condition. So on an item whose markers were all read, each
name of the registry is attached just when the rule of that name finds a marker. The name of a marker that
takes no arguments, and of one outside the vocabulary, is read as that marker again; each name of the
registry is read without arguments. -/
theorem vocabulary_agrees :
    (∀ name args kwargs m, parse name args kwargs = .ok m →
      m.name = name ∧
      (m.isRegistered ↔ MarkerRegistry.standard.contains name) ∧
      (MarkerRegistry.standard.contains name ↔ ∀ other, m ≠ unregistered other)) ∧
    (∀ item : TestItem, (∀ m ∈ item.markers, m.IsRead) →
      ∀ name, MarkerRegistry.standard.contains name → ∃ r : Rule, r.markerName = name ∧
        (item.hasMarker name ↔ r.finds item.markers) ∧
        (item.hasMarker name ↔ ∃ m ∈ item.markers, Rule.of? m = some r)) ∧
    (∀ name m, Plain name m → m.name = name ∧ named name = .ok m) ∧
    (∀ m : Marker, m.IsRead → ¬m.isRegistered → named m.name = .ok m) ∧
    ∀ name, MarkerRegistry.standard.contains name → ∃ m, named name = .ok m ∧ m.isRegistered := by
  refine ⟨fun name args kwargs m h => ?_, fun item h name hname => ?_, fun _ _ => named_of_plain,
    fun _ h => h.named_of_not_isRegistered, fun _ => exists_named_of_contains⟩
  · have hregistered := isRegistered_of_parse h
    refine ⟨name_of_parse h, ?_, ?_⟩
    · rw [hregistered]
    · rw [← hregistered, isRegistered_iff]
  · obtain ⟨r, rfl⟩ := Rule.contains_iff_exists_markerName.mp hname
    have hitem := hasMarker_iff h r
    exact ⟨r, rfl, hitem.trans Rule.finds_iff.symm, hitem⟩

/-- A name outside the vocabulary stands before the marker that a rule finds. -/
theorem vocabulary_agrees_push :
    let flaky := unregistered "flaky"
    let git := needsBinaries ["git"] false none
    let item : TestItem := { name := "push", path := "push.py", markers := [flaky, git] }
    (∀ m ∈ item.markers, m.IsRead) ∧ ¬flaky.isRegistered ∧
      ¬MarkerRegistry.standard.contains "flaky" ∧ named "flaky" = .ok flaky ∧
      named destructiveName = .ok destructive ∧
      (item.hasMarker needsBinariesName ↔ (binariesOf? item.markers).isSome) ∧
      ∃ m, named needsNetworkName = .ok m ∧ m.isRegistered := by
  intro flaky git item
  have hflaky : parse "flaky" [] .empty = .ok flaky := rfl
  have hgit : parse needsBinariesName [.text "git"] .empty = .ok git := rfl
  have hread : ∀ m ∈ item.markers, m.IsRead := by
    simp only [item, List.forall_mem_cons]
    exact ⟨⟨_, _, _, hflaky⟩, ⟨_, _, _, hgit⟩, nofun⟩
  obtain ⟨hparse, hitem, hplain, hother, hnamed⟩ := vocabulary_agrees
  obtain ⟨r, hr, hfinds, -⟩ := hitem item hread needsBinariesName rfl
  have hrule : r = .binaries := Rule.markerName_injective hr
  rw [hrule] at hfinds
  refine ⟨hread, nofun, ?_, hother flaky ⟨_, _, _, hflaky⟩ nofun, (hplain _ _ .destructive).2,
    hfinds, hnamed _ rfl⟩
  intro hcontains
  cases (hparse _ _ _ _ hflaky).2.1.mpr hcontains

example :
    let item : TestItem := { name := "wipe", path := "wipe.py", markers := [.unregistered destructiveName] }
    item.hasMarker destructiveName = true ∧ Rule.destructive.finds item.markers = false := by
  decide

end Marker

end TestSelection
