import TestSelection.Proofs.Gate.Outcome
import TestSelection.Proofs.Manifest.Validation
import TestSelection.Proofs.Suite.Item

/-!
# Tests that do not know of each other

Any tests of a manifest make a suite on their own, in any order: what a test comes to and how it is
decided does not hang on the tests before and behind it, and a valid manifest stays valid
(`build_withTests`). A suite is decided in one run, so a test meets a host that was asked before; on a
host with fixed answers that makes no difference (`verdicts_eq`).
-/
namespace TestSelection

/-- The manifest with other tests. -/
def Manifest.withTests (m : Manifest) (tests : List TestEntry) : Manifest :=
  { m with tests }

namespace Suite

variable {m : Manifest} {strict : Bool} {suite : Suite} {tests : List TestEntry}

theorem exists_items_of_subset {classifier : Classifier} {items : List TestItem}
    (h : List.Forall₂ (fun t item => itemOf strict classifier t = .ok item) m.tests items)
    (ht : tests ⊆ m.tests) :
    ∃ items', List.Forall₂ (fun t item => itemOf strict classifier t = .ok item) tests items' := by
  have hall : ∀ t ∈ tests, ∃ item, itemOf strict classifier t = .ok item := by
    intro t hmem
    obtain ⟨item, -, hitem⟩ := exists_mem_of_forall₂ h (ht hmem)
    exact ⟨item, hitem⟩
  obtain ⟨items', hitems'⟩ := exists_mapM_eq_ok_iff.mpr hall
  exact ⟨items', mapM_eq_ok_iff.mp hitems'⟩

/-- A test comes to the same item wherever it stands. -/
theorem getElem?_eq_of_itemOf {classifier : Classifier} {tests' : List TestEntry}
    {items items' : List TestItem}
    (h : List.Forall₂ (fun t item => itemOf strict classifier t = .ok item) tests items)
    (h' : List.Forall₂ (fun t item => itemOf strict classifier t = .ok item) tests' items')
    {i j : Nat} {t : TestEntry} (hi : tests[i]? = some t) (hj : tests'[j]? = some t) :
    ∃ item, items[i]? = some item ∧ items'[j]? = some item := by
  obtain ⟨item, hitem, ht⟩ := exists_getElem?_of_forall₂ h hi
  obtain ⟨item', hitem', ht'⟩ := exists_getElem?_of_forall₂ h' hj
  cases Except.ok.inj (ht.symm.trans ht')
  exact ⟨item, hitem, hitem'⟩

/-! ## Deciding a suite -/

/-- The decision about an item with the questions that it takes, behind those that were asked before. -/
def verdict (host : HostAnswers) (config : RunConfiguration) (item : TestItem) :
    StateM (List HostCall) (Decision × List HostCall) := do
  let before ← get
  let decision ← Gate.evaluate host.recording config item
  return (decision, (← get).drop before.length)

/-- What comes of deciding the items of a suite one after another on one host. -/
def verdicts (host : HostAnswers) (config : RunConfiguration) (suite : Suite) :
    List (Decision × List HostCall) :=
  ((suite.items.mapM (verdict host config)).run []).1

theorem givesAt_verdict (host : HostAnswers) (config : RunConfiguration) (n : Nat) (item : TestItem) :
    GivesAt n (verdict host config item) ((Gate.evaluate host.recording config item).run [])
      ((Gate.evaluate host.recording config item).run []).2 := by
  have hg := Gate.givesAt_evaluate_fixed host config
  -- What is asked goes behind the record, so dropping the old record leaves what is asked of none.
  intro calls _
  have hrun : (verdict host config item).run calls =
      let after := (Gate.evaluate host.recording config item).run calls
      ((after.1, after.2.drop calls.length), after.2) := rfl
  simp only [hrun, hg _ item calls rfl, hg _ item [] rfl, List.nil_append, List.drop_left]

/-- In the run of a suite each item is decided as if it were alone. -/
theorem verdicts_eq (host : HostAnswers) (config : RunConfiguration) (suite : Suite) :
    verdicts host config suite =
      suite.items.map fun item => (Gate.evaluate host.recording config item).run [] := by
  rw [verdicts, GivesAt.mapM (givesAt_verdict host config) suite.items [] rfl]

/-! ## Some of the tests -/

/-- If the suite of a manifest can be built, so can the suite of some of its tests in any order. The two
differ in their items only, each test has the item that it had, and in the runs of the two suites it is
decided alike, with the same questions to the host. The manifest of these tests is valid if the whole
manifest is. -/
theorem build_withTests (h : (build m strict).1 = .ok suite) (ht : tests.Subperm m.tests) :
    ∃ suite', (build (m.withTests tests) strict).1 = .ok suite' ∧
      suite' = { suite with items := suite'.items } ∧ suite'.items.length = tests.length ∧
      (∀ (i j : Nat) (t : TestEntry), tests[i]? = some t → m.tests[j]? = some t →
        (∃ item, suite'.items[i]? = some item ∧ suite.items[j]? = some item) ∧
        ∀ (host : HostAnswers) (config : RunConfiguration), ∃ outcome,
          (verdicts host config suite')[i]? = some outcome ∧
          (verdicts host config suite)[j]? = some outcome) ∧
      (m.validate = .ok () → (m.withTests tests).validate = .ok ()) := by
  obtain ⟨hitems, hs⟩ := build_eq_ok_iff.mp h
  obtain ⟨items', hitems'⟩ := exists_items_of_subset hitems ht.subset
  obtain ⟨-, hs'⟩ := ofItems_of_ofItems hs items'
  refine ⟨{ suite with items := items' }, build_eq_ok_iff.mpr ⟨hitems', hs'⟩, rfl,
    hitems'.length_eq.symm, ?_, ?_⟩
  · intro i j t hi hj
    obtain ⟨item, hitem', hitem⟩ := getElem?_eq_of_itemOf hitems' hitems hi hj
    refine ⟨⟨item, hitem', hitem⟩, fun host config => ?_⟩
    simp only [verdicts_eq, List.getElem?_map, hitem, hitem', Option.map_some]
    exact ⟨_, rfl, rfl⟩
  · -- The order decides which test is blamed, but not whether one is.
    intro hv
    exact Manifest.validate_eq_ok_iff.mpr ((Manifest.validate_eq_ok_iff.mp hv).of_subperm ht)

/-- A test that the standard rules give no tag, and one that asks for a binary. -/
def plainTest : TestEntry := { name := "plain", path := "plain.py", markers := [.bare "slow"] }

def cloneTest : TestEntry where
  name := "clone"
  path := "tests/integration/cli/clone.py"
  markers := [.call Marker.needsBinariesName [.text "git"] .empty, .bare Marker.needsRootName]

def trio : Manifest where
  version := Manifest.knownVersion
  tests := [plainTest, { name := "unit", path := "tests/unit/x.py" }, cloneTest]

theorem build_withTests_trio : ∃ suite suite',
    (build trio false).1 = .ok suite ∧ trio.validate = .ok () ∧
    (build (trio.withTests [cloneTest, plainTest]) false).1 = .ok suite' ∧
    suite'.items[0]? = suite.items[2]? ∧ suite'.items[1]? = suite.items[0]? ∧
    (∃ outcome, (verdicts ⟨some 0, fun _ => none, true, true⟩ {} suite')[0]? = some outcome ∧
      (verdicts ⟨some 0, fun _ => none, true, true⟩ {} suite)[2]? = some outcome) ∧
    (trio.withTests [cloneTest, plainTest]).validate = .ok () := by
  have hvalid : trio.validate = .ok () := by decide
  have hkept : [cloneTest, plainTest].Subperm trio.tests :=
    ⟨[plainTest, cloneTest], .swap _ _ _, .cons_cons _ (.cons _ (.refl _))⟩
  have hbuilt : (build trio false).1 = .ok _ := rfl
  obtain ⟨suite', hs, -, -, hitems, hvalid'⟩ := build_withTests hbuilt hkept
  obtain ⟨⟨clone, hclone', hclone⟩, hverdict⟩ := hitems 0 2 cloneTest rfl rfl
  obtain ⟨⟨plain, hplain', hplain⟩, -⟩ := hitems 1 0 plainTest rfl rfl
  refine ⟨_, suite', hbuilt, hvalid, hs, ?_, ?_, hverdict _ _, hvalid' hvalid⟩
  · rw [hclone', hclone]
  · rw [hplain', hplain]

end Suite

end TestSelection
