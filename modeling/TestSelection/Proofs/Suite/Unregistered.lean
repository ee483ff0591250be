import Mathlib.Data.List.Forall2
import TestSelection.Proofs.Gate.Rule
import TestSelection.Proofs.Suite.Strictness
import TestSelection.Proofs.TestItem.Tagging

/-!
# Entries outside the vocabulary

A manifest without its entries outside the vocabulary is accepted by a strict run, and its suite
differs in nothing that a decision looks at: the items have their names, paths and tags, and each is
decided as before, on every host (`build_withoutUnregistered`).
-/
namespace TestSelection

def MarkerEntry.isRegistered (e : MarkerEntry) : Bool :=
  MarkerRegistry.standard.contains e.name

theorem MarkerEntry.of_marker {e : MarkerEntry} {marker : Marker} (h : e.marker = .ok marker) :
    marker.name = e.name ∧ marker.isRegistered = e.isRegistered := by
  cases e with
  | bare name => exact ⟨Marker.name_of_parse h, Marker.isRegistered_of_parse h⟩
  | call name args kwargs => exact ⟨Marker.name_of_parse h, Marker.isRegistered_of_parse h⟩

def TestEntry.withoutUnregistered (t : TestEntry) : TestEntry :=
  { t with markers := t.markers.filter MarkerEntry.isRegistered }

/-- The manifest without the entries outside the vocabulary. -/
def Manifest.withoutUnregistered (m : Manifest) : Manifest :=
  { m with tests := m.tests.map TestEntry.withoutUnregistered }

/-- The item without its markers outside the vocabulary. -/
def TestItem.withoutUnregistered (item : TestItem) : TestItem :=
  { item with markers := item.markers.filter Marker.isRegistered }

namespace Suite

/-! ## Items -/

theorem withoutUnregistered_addMarker (item : TestItem) (marker : Marker) :
    (item.addMarker marker).withoutUnregistered =
      if marker.isRegistered then item.withoutUnregistered.addMarker marker
      else item.withoutUnregistered := by
  cases h : marker.isRegistered <;>
    simp [TestItem.withoutUnregistered, TestItem.addMarker, List.filter_append, h]

theorem withoutUnregistered_tagBy (item : TestItem) (classifier : Classifier) :
    (item.tagBy classifier).withoutUnregistered = item.withoutUnregistered.tagBy classifier := by
  rw [TestItem.tagBy_eq, TestItem.tagBy_eq]
  rfl

/-- No rule looks at a marker outside the vocabulary. -/
theorem first?_withoutUnregistered (item : TestItem) (r : Gate.Rule) :
    r.first? item.withoutUnregistered.markers = r.first? item.markers := by
  have h (marker : Marker) : (marker.isRegistered = true ∧ Gate.Rule.of? marker = some r) ↔
      Gate.Rule.of? marker = some r := by
    cases marker <;> simp [Marker.isRegistered, Gate.Rule.of?]
  simp only [Gate.Rule.first?, TestItem.withoutUnregistered, List.find?_filter, decide_eq_true_eq, h]

/-! ## Building -/

variable {strict : Bool}

theorem marker_of_readEntry {test : String} {entry : MarkerEntry} {marker : Marker}
    (h : (readEntry strict test entry).1 = .ok marker) : entry.marker = .ok marker := by
  unfold readEntry at h
  split at h
  · cases h
  · split at h
    · cases h; assumption
    · split at h
      · cases h
      · cases h; assumption

theorem readEntry_of_isRegistered {test : String} {entry : MarkerEntry} {marker : Marker}
    (h : entry.marker = .ok marker) (hr : entry.isRegistered) :
    readEntry true test entry = (.ok marker, []) := by
  have hc : MarkerRegistry.standard.contains marker.name := (MarkerEntry.of_marker h).1 ▸ hr
  simp only [readEntry, h, hc, ↓reduceIte]

theorem attach_withoutUnregistered {item built : TestItem} {entries : List MarkerEntry}
    (h : (attach strict item entries).1 = .ok built) :
    attach true item.withoutUnregistered (entries.filter MarkerEntry.isRegistered) =
      (.ok built.withoutUnregistered, []) := by
  induction entries generalizing item with
  | nil => cases h; rfl
  | cons entry rest ih =>
      rw [attach_cons, andThen_fst, bind_eq_ok_iff] at h
      obtain ⟨marker, hread, hrest⟩ := h
      have hm := marker_of_readEntry hread
      have hi := ih hrest
      rw [withoutUnregistered_addMarker, (MarkerEntry.of_marker hm).2] at hi
      cases hr : entry.isRegistered with
      | true =>
          rw [List.filter_cons_of_pos hr, attach_cons, readEntry_of_isRegistered hm hr]
          simp only [hr, ↓reduceIte] at hi
          simp only [andThen, hi, List.append_nil]
      | false =>
          simpa only [List.filter_cons, hr, Bool.false_eq_true, ↓reduceIte] using hi

theorem collect_withoutUnregistered {classifier : Classifier} {tests : List TestEntry}
    {items : List TestItem} (h : (collect strict classifier tests).1 = .ok items) :
    (collect true classifier (tests.map TestEntry.withoutUnregistered)).1 =
      .ok (items.map TestItem.withoutUnregistered) := by
  induction tests generalizing items with
  | nil => cases h; rfl
  | cons t rest ih =>
      rw [collect_cons, andThen_fst, bind_eq_ok_iff] at h
      obtain ⟨item, hitem, hrest⟩ := h
      obtain ⟨others, hothers, rfl⟩ := map_eq_ok_iff.mp hrest
      have ha : attach true (bareItem t.withoutUnregistered) t.withoutUnregistered.markers =
          (.ok item.withoutUnregistered, []) := attach_withoutUnregistered hitem
      rw [List.map_cons, collect_cons, ha]
      simp only [andThen, ih hothers, Except.map, List.map_cons, withoutUnregistered_tagBy]

theorem ofItems_of_ofItems {m : Manifest} {items : List TestItem} {suite : Suite}
    (h : ofItems m items = .ok suite) (items' : List TestItem) :
    suite.items = items ∧ ofItems m items' = .ok { suite with items := items' } := by
  obtain ⟨probes, hprobes, hs⟩ := bind_eq_ok_iff.mp h
  cases pure_eq_ok_iff.mp hs
  exact ⟨rfl, bind_eq_ok_iff.mpr ⟨probes, hprobes, rfl⟩⟩

/-- Two items stand for one test: they have one name, one path and the same tags, and they are decided
by one program, whatever monad the host answers in. So every host is asked the same questions in the
same order, and the decision is the same. -/
structure SameTest (item item' : TestItem) : Prop where
  name : item'.name = item.name
  path : item'.path = item.path
  tags : item'.tags = item.tags
  evaluate : ∀ (n : Type → Type) [Monad n] (host : HostEnvironment n) (config : RunConfiguration),
    Gate.evaluate host config item' = Gate.evaluate host config item

/-- If the suite of a manifest can be built, a strict run accepts the manifest without its entries
outside the vocabulary, and the items of the two suites stand for the same tests, one by one. -/
theorem build_withoutUnregistered (strict : Bool) (m : Manifest) {suite : Suite}
    (h : (build m strict).1 = .ok suite) :
    ∃ suite', (build m.withoutUnregistered true).1 = .ok suite' ∧
      List.Forall₂ SameTest suite.items suite'.items := by
  rw [build_eq, andThen_fst, bind_eq_ok_iff] at h
  obtain ⟨items, hitems, hs⟩ := h
  obtain ⟨rfl, hs'⟩ := ofItems_of_ofItems hs (items.map TestItem.withoutUnregistered)
  refine ⟨{ suite with items := suite.items.map TestItem.withoutUnregistered }, ?_, ?_⟩
  · rw [build_eq, andThen_fst]
    exact bind_eq_ok_iff.mpr ⟨_, collect_withoutUnregistered hitems, hs'⟩
  · rw [List.forall₂_map_right_iff, List.forall₂_same]
    intro item _
    refine ⟨rfl, rfl, rfl, fun n _ host config => ?_⟩
    exact Gate.evaluate_congr host config (first?_withoutUnregistered item)

/-- A manifest with unregistered entries before, between and behind a marker of the vocabulary. -/
def scattered : Manifest where
  version := Manifest.knownVersion
  tests := [
    { name := "a", path := "tests/unit/a.py",
      markers := [.bare "slow", .bare Marker.needsRootName, .call "flaky" [.bool true] .empty] },
    { name := "b", path := "b.py", markers := [.bare "slow"] }]

theorem build_scattered : ∃ suite suite',
    (build scattered false).1 = .ok suite ∧
    suite.items.map TestItem.markers =
      [[.unregistered "slow", .needsRoot, .unregistered "flaky"], [.unregistered "slow"]] ∧
    (build scattered.withoutUnregistered true).1 = .ok suite' ∧
    List.Forall₂ SameTest suite.items suite'.items := by
  obtain ⟨suite', hs, hi⟩ := build_withoutUnregistered false scattered rfl
  exact ⟨_, suite', rfl, rfl, hs, hi⟩

end Suite

end TestSelection
