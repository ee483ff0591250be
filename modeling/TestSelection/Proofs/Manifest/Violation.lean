import TestSelection.Proofs.Manifest.Validation

/-!
# Violations of a manifest

What is wrong with a manifest can be listed without stopping anywhere: each test is held against the tests
before it, and each part of the settings is looked at by itself. Validation, which stops early and keeps the
names that it met, reports the head of this list (`validate_eq_first_violation`).
-/
namespace TestSelection

/-- A text has a character that is no white space. -/
def Text.IsVisible (s : String) : Prop :=
  ∃ c ∈ s.toList, isBlank c = false

instance (s : String) : Decidable (Text.IsVisible s) :=
  List.decidableBEx (fun c => Text.isBlank c = false) s.toList

theorem Text.isBlankText_iff {s : String} : isBlankText s ↔ ¬IsVisible s := by
  simp [isBlankText, IsVisible]

theorem Text.isBlankText_eq_false_iff {s : String} : isBlankText s = false ↔ IsVisible s := by
  rw [← Bool.not_eq_true, isBlankText_iff, not_not]

theorem isNamed_iff {t : TestEntry} :
    t.IsNamed ↔ Text.IsVisible t.name ∧ Text.IsVisible t.path := by
  rw [← Text.isBlankText_eq_false_iff, ← Text.isBlankText_eq_false_iff]
  exact ⟨fun h => ⟨h.name, h.path⟩, fun h => ⟨h.1, h.2⟩⟩

/-! ## The list -/

/-- What a demand that is not met is reported as. -/
def demand (p : Prop) [Decidable p] (e : ValidationError) : List ValidationError :=
  if p then [] else [e]

/-- The violations of a test that stands behind some others. -/
def TestEntry.violations (earlier : List TestEntry) (t : TestEntry) : List ValidationError :=
  demand (Text.IsVisible t.name) .blankTestName ++
  demand (Text.IsVisible t.path) (.blankTestPath t.name) ++
  demand (∀ other ∈ earlier, other.name ≠ t.name) (.repeatedTest t.name)

def NetworkSettings.violations (n : NetworkSettings) : List ValidationError :=
  demand (n.localPorts.length = 2) (.portCount n.localPorts.length) ++
  demand (n.externalAddresses ≠ []) .noAddresses ++
  demand (n.connectTimeout ≠ 0) .noTimeout

def CategoryRule.violations (r : CategoryRule) : List ValidationError :=
  demand (Text.IsVisible r.suite) .blankSuite

/-- All violations of a manifest: of its version, of its tests in their order, of its network settings and
of its category rules in their order. -/
def Manifest.violations (m : Manifest) : List ValidationError :=
  demand (m.version = "1.0") (.version m.version) ++
  m.tests.zipIdx.flatMap (fun (t, i) => t.violations (m.tests.take i)) ++
  m.settings.network.toList.flatMap NetworkSettings.violations ++
  m.settings.categories.toList.flatten.flatMap CategoryRule.violations

/-! ## Its head -/

/-- A check that fails with the first of some violations. -/
def firstOf : List ValidationError → Except ValidationError Unit
  | [] => .ok ()
  | e :: _ => .error e

theorem firstOf_append (l more : List ValidationError) :
    firstOf (l ++ more) = firstOf l >>= fun _ => firstOf more := by
  cases l <;> rfl

theorem firstOf_demand (p : Prop) [Decidable p] (e : ValidationError) (more : List ValidationError) :
    firstOf (demand p e ++ more) = if p then firstOf more else .error e := by
  unfold demand
  split <;> rfl

theorem firstOf_eq_error_iff {l : List ValidationError} {e : ValidationError} :
    firstOf l = .error e ↔ l.head? = some e := by
  cases l <;> simp [firstOf]

/-! ## The checks -/

theorem validateTests_eq_firstOf {seen : List String} {earlier tests : List TestEntry}
    (hseen : ∀ name, name ∈ seen ↔ ∃ t ∈ earlier, t.name = name) :
    validateTests seen tests = firstOf (tests.zipIdx earlier.length |>.flatMap fun (t, i) =>
      t.violations ((earlier ++ tests).take i)) := by
  -- The names that validation keeps are those of the tests before, which grow by the test at the head.
  induction tests generalizing seen earlier with
  | nil => rfl
  | cons t rest ih =>
      have hgrown : ∀ name, name ∈ t.name :: seen ↔ ∃ t' ∈ earlier ++ [t], t'.name = name := by
        intro name
        simp only [List.mem_cons, hseen, List.mem_append, List.not_mem_nil, or_false]
        grind
      have hrest := ih hgrown
      simp only [List.length_append, List.length_singleton, List.append_assoc,
        List.singleton_append] at hrest
      have hnew : (∀ other ∈ earlier, other.name ≠ t.name) ↔ t.name ∉ seen := by
        simp [hseen]
      simp only [validateTests, hrest, List.zipIdx_cons, List.flatMap_cons, List.take_left,
        TestEntry.violations, List.append_assoc, firstOf_demand, hnew, Text.isBlankText_iff, ite_not]

theorem NetworkSettings.validate_eq_firstOf (n : NetworkSettings) :
    n.validate = firstOf n.violations := by
  rw [validate, violations, ← List.append_nil (_ ++ _)]
  simp only [List.append_assoc, firstOf_demand, ne_eq, ite_not]
  rfl

theorem validateNetwork_eq_firstOf (network : Option NetworkSettings) :
    validateNetwork network = firstOf (network.toList.flatMap NetworkSettings.violations) := by
  cases network with
  | none => rfl
  | some n =>
      rw [validateNetwork, n.validate_eq_firstOf, Option.toList_some, List.flatMap_singleton]

theorem validateCategories_eq_firstOf (categories : Option (List CategoryRule)) :
    validateCategories categories =
      firstOf (categories.toList.flatten.flatMap CategoryRule.violations) := by
  cases categories with
  | none => rfl
  | some rules =>
      rw [validateCategories, Option.toList_some, List.flatten_singleton]
      induction rules with
      | nil => rfl
      | cons r rest ih =>
          rw [List.flatMap_cons, CategoryRule.violations, firstOf_demand, ← ih]
          by_cases hr : Text.IsVisible r.suite <;> simp [Text.isBlankText_iff, hr]

/-- Validation is the check for the first violation. -/
theorem Manifest.validate_eq_firstOf (m : Manifest) : m.validate = firstOf m.violations := by
  have htests := @validateTests_eq_firstOf [] [] m.tests (by simp)
  rw [List.length_nil, List.nil_append] at htests
  rw [violations, List.append_assoc, List.append_assoc, firstOf_demand, firstOf_append, firstOf_append,
    ← htests, ← validateNetwork_eq_firstOf, ← validateCategories_eq_firstOf, validate, knownVersion]
  by_cases hv : m.version = "1.0"
  · rw [if_neg (not_not.mpr hv), if_pos hv]
  · rw [if_pos hv, if_neg hv]
    rfl

/-- A manifest is accepted just when its version is the known one, each of its tests has a name and a path
with more than white space, no two tests have one name, network settings have two ports, an address and
a timeout, and each suite of a category rule is named. Otherwise the first violation is reported. -/
theorem Manifest.validate_eq_first_violation (m : Manifest) :
    (m.validate = .ok () ↔
      m.version = "1.0" ∧
      (∀ t ∈ m.tests, Text.IsVisible t.name ∧ Text.IsVisible t.path) ∧
      (m.tests.map (·.name)).Nodup ∧
      (∀ n ∈ m.settings.network, n.localPorts.length = 2 ∧ n.externalAddresses ≠ [] ∧
        n.connectTimeout ≠ 0) ∧
      ∀ rules ∈ m.settings.categories, ∀ r ∈ rules, Text.IsVisible r.suite) ∧
    ∀ e, m.validate = .error e ↔ m.violations.head? = some e := by
  constructor
  · rw [validate_eq_ok_iff]
    constructor
    · intro h
      refine ⟨h.version, fun t ht => isNamed_iff.mp (h.named t ht), h.distinct, fun n hn => ?_,
        fun rules hrules r hr => Text.isBlankText_eq_false_iff.mp (h.categories rules hrules r hr)⟩
      exact ⟨(h.network n hn).ports, (h.network n hn).addresses, (h.network n hn).timeout⟩
    · rintro ⟨hversion, hnamed, hdistinct, hnetwork, hcategories⟩
      refine ⟨hversion, fun t ht => isNamed_iff.mpr (hnamed t ht), hdistinct, fun n hn => ?_,
        fun rules hrules r hr => Text.isBlankText_eq_false_iff.mpr (hcategories rules hrules r hr)⟩
      obtain ⟨hports, haddresses, htimeout⟩ := hnetwork n hn
      exact ⟨hports, haddresses, htimeout⟩
  · intro e
    rw [validate_eq_firstOf, firstOf_eq_error_iff]

/-- Two tests share a blank name, and of all that is wrong the name of the first one is reported. -/
example :
    let m : Manifest := {
      version := "1.0"
      settings := { network := some { localPorts := [18000], connectTimeout := 0 }
                    categories := some [{ suite := "" }] }
      tests := [{ name := " ", path := "a.py" }, { name := " ", path := "" }] }
    m.violations = [.blankTestName, .blankTestName, .blankTestPath " ", .repeatedTest " ", .portCount 1,
      .noTimeout, .blankSuite] ∧ m.validate = .error .blankTestName := by
  decide +kernel

end TestSelection
