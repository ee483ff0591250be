import TestSelection.Proofs.Manifest.Validation
import TestSelection.Proofs.Suite.Unregistered

/-!
# The items of a suite

The loops that build a suite are traversals without memory: each entry is read on its own, and each
test comes to an item of its own, whatever stands before it and behind it (`collect_fst`). So a suite
is known from the items of its tests, one by one (`build_eq_ok_iff`).
-/
namespace TestSelection.Suite

/-! ## Entries -/

theorem readEntry_eq_ok_iff {strict : Bool} {test : String} {entry : MarkerEntry} {marker : Marker} :
    (readEntry strict test entry).1 = .ok marker ↔
      entry.marker = .ok marker ∧ (strict = true → entry.isRegistered = true) := by
  unfold readEntry
  cases h : entry.marker with
  | error source => simp
  | ok read =>
      have hr : entry.isRegistered = MarkerRegistry.standard.contains read.name := by
        rw [MarkerEntry.isRegistered, (MarkerEntry.of_marker h).1]
      rw [hr]
      cases hc : MarkerRegistry.standard.contains read.name <;> cases strict <;> simp [hc]

/-- Reading the entries of a test one after another only adds their markers. -/
theorem attach_fst (strict : Bool) (item : TestItem) (entries : List MarkerEntry) :
    (attach strict item entries).1 = do
      let markers ← entries.mapM fun entry => (readEntry strict item.name entry).1
      return { item with markers := item.markers ++ markers } := by
  -- The item is any item, since behind the first entry it already has a marker.
  induction entries generalizing item with
  | nil => simp [attach]; rfl
  | cons entry rest ih =>
      rw [attach_cons, andThen_fst, List.mapM_cons, bind_assoc]
      congr 1
      funext marker
      simp only [ih, TestItem.addMarker, bind_assoc, pure_bind, List.append_assoc,
        List.singleton_append]

/-! ## Tests -/

/-- The tags of a path are offered to an item one by one, and all of them arrive. -/
theorem tagBy_of_untagged (item : TestItem) (classifier : Classifier) (h : item.tags = []) :
    item.tagBy classifier = { item with tags := classifier.classify item.path } := by
  have hnew : (classifier.classify item.path).filter (· ∉ item.tags) =
      classifier.classify item.path := List.filter_eq_self.mpr fun tag _ => by simp [h]
  rw [TestItem.tagBy_eq, hnew, h, List.nil_append]

/-- The item that a test comes to, seen on its own. -/
def itemOf (strict : Bool) (classifier : Classifier) (t : TestEntry) :
    Except ManifestError TestItem := do
  let markers ← t.markers.mapM fun entry => (readEntry strict t.name entry).1
  return { name := t.name, path := t.path, markers, tags := classifier.classify t.path }

theorem itemOf_eq_ok_iff {strict : Bool} {classifier : Classifier} {t : TestEntry} {item : TestItem} :
    itemOf strict classifier t = .ok item ↔
      item.name = t.name ∧ item.path = t.path ∧ item.tags = classifier.classify t.path ∧
      List.Forall₂ (fun entry marker => entry.marker = .ok marker ∧
        (strict = true → entry.isRegistered = true)) t.markers item.markers := by
  simp only [itemOf, bind_eq_ok_iff, pure_eq_ok_iff, mapM_eq_ok_iff, readEntry_eq_ok_iff]
  constructor
  · rintro ⟨markers, hm, rfl⟩
    exact ⟨rfl, rfl, rfl, hm⟩
  · rintro ⟨hname, hpath, htags, hm⟩
    cases item
    cases hname
    cases hpath
    cases htags
    exact ⟨_, hm, rfl⟩

theorem collect_fst (strict : Bool) (classifier : Classifier) (tests : List TestEntry) :
    (collect strict classifier tests).1 = tests.mapM (itemOf strict classifier) := by
  induction tests with
  | nil => rfl
  | cons t rest ih =>
      rw [collect_cons, andThen_fst, attach_fst, List.mapM_cons, itemOf, ih, bind_assoc, bind_assoc]
      congr 1
      funext markers
      simp only [pure_bind]
      -- Attaching markers leaves the tags alone, so the item of the test is still untagged here.
      rw [tagBy_of_untagged _ _ rfl]
      cases List.mapM (itemOf strict classifier) rest <;> rfl

/-! ## Suites -/

variable {m : Manifest} {strict : Bool}

theorem ofItems_eq_ok_iff {items : List TestItem} {suite : Suite} : ofItems m items = .ok suite ↔
    ∃ probes, ProbeSettings.ofNetwork m.settings.network = .ok probes ∧
      suite = {
        name := m.name
        runConfiguration := m.settings.runConfiguration
        probes
        classifier := Classifier.ofCategories m.settings.categories
        items } := by
  simp only [ofItems, bind_eq_ok_iff, mapError_eq_ok_iff, pure_eq_ok_iff, @eq_comm _ _ suite]

theorem ofItems_eq_error_iff {items : List TestItem} {e : ManifestError} :
    ofItems m items = .error e ↔
      ∃ v, validateNetwork m.settings.network = .error v ∧ e = .invalid v := by
  simp only [ofItems, bind_eq_error_iff, mapError_eq_error_iff, ofNetwork_eq_error_iff]
  refine or_iff_left ?_
  rintro ⟨_, -, h⟩
  cases h

/-- A suite is built from the items of its tests, one by one, and from settings that can be probed. -/
theorem build_eq_ok_iff {suite : Suite} : (build m strict).1 = .ok suite ↔
    List.Forall₂ (fun t item => itemOf (strict || m.settings.strictMarkers)
      (Classifier.ofCategories m.settings.categories) t = .ok item) m.tests suite.items ∧
    ofItems m suite.items = .ok suite := by
  rw [build_eq, andThen_fst, collect_fst, bind_eq_ok_iff]
  simp only [mapM_eq_ok_iff]
  constructor
  · rintro ⟨items, hitems, hs⟩
    obtain ⟨rfl, -⟩ := ofItems_of_ofItems hs items
    exact ⟨hitems, hs⟩
  · rintro ⟨hitems, hs⟩
    exact ⟨suite.items, hitems, hs⟩

/-- What a strict run accepts, a lenient run makes the same suite of. -/
theorem build_lenient_of_build_strict {suite : Suite} (h : (build m true).1 = .ok suite) :
    (build m strict).1 = .ok suite := by
  obtain ⟨hitems, hs⟩ := build_eq_ok_iff.mp h
  refine build_eq_ok_iff.mpr ⟨hitems.imp fun t item ht => ?_, hs⟩
  obtain ⟨hname, hpath, htags, hmarkers⟩ := itemOf_eq_ok_iff.mp ht
  exact itemOf_eq_ok_iff.mpr ⟨hname, hpath, htags,
    hmarkers.imp fun entry marker hm => ⟨hm.1, fun _ => hm.2 (Bool.true_or _)⟩⟩

end TestSelection.Suite
