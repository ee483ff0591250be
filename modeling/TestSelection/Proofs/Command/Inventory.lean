import TestSelection.Proofs.Command.Acceptance
import TestSelection.Proofs.Ordered
import TestSelection.Proofs.Text.ByteOrder

/-!
# What validating counts

The report on a valid manifest counts its tests and each of its marker entries once, either as one of the
vocabulary or as one outside. The names outside are listed once each, and they are listed at all just when a
strict validation refuses the manifest (`validate_counts`).
-/
namespace TestSelection

/-- The marker entries of all tests. -/
def Manifest.entries (m : Manifest) : List MarkerEntry :=
  m.tests.flatMap (·.markers)

namespace Suite

/-! ## Entries of a suite -/

variable {m : Manifest} {strict : Bool} {suite : Suite}

theorem names_of_forall₂ {classifier : Classifier} {tests : List TestEntry} {items : List TestItem}
    (h : List.Forall₂ (fun t item => itemOf strict classifier t = .ok item) tests items) :
    (items.flatMap (·.markers)).map Marker.name = (tests.flatMap (·.markers)).map MarkerEntry.name := by
  induction h with
  | nil => rfl
  | @cons t item _ _ ht _ ih =>
      obtain ⟨-, -, -, hmarkers⟩ := itemOf_eq_ok_iff.mp ht
      have hnames : List.Forall₂ (· = ·) (item.markers.map Marker.name)
          (t.markers.map MarkerEntry.name) := by
        rw [List.forall₂_map_left_iff, List.forall₂_map_right_iff]
        exact (hmarkers.imp fun entry marker hm => (MarkerEntry.of_marker hm.1).1).flip
      rw [List.forall₂_eq_eq_eq] at hnames
      rw [List.flatMap_cons, List.flatMap_cons, List.map_append, List.map_append, ih, hnames]

/-- The markers of a suite are named as the entries of its manifest. -/
theorem names_of_build (h : (build m strict).1 = .ok suite) :
    (suite.items.flatMap (·.markers)).map Marker.name = m.entries.map MarkerEntry.name :=
  names_of_forall₂ (build_eq_ok_iff.mp h).1

/-- A manifest that is accepted at all is accepted by a strict run if all its entries belong to the
vocabulary. -/
theorem exists_build_strict_iff (h : (build m strict).1 = .ok suite) :
    (∃ suite', (build m true).1 = .ok suite') ↔ ∀ e ∈ m.entries, e.isRegistered = true := by
  constructor
  · rintro ⟨suite', h'⟩ e he
    obtain ⟨t, hmem, he⟩ := List.mem_flatMap.mp he
    obtain ⟨item, -, ht⟩ := exists_mem_of_forall₂ (build_eq_ok_iff.mp h').1 hmem
    obtain ⟨-, -, -, hmarkers⟩ := itemOf_eq_ok_iff.mp ht
    obtain ⟨marker, -, -, hr⟩ := exists_mem_of_forall₂ hmarkers he
    exact hr (Bool.true_or _)
  · intro hall
    obtain ⟨hitems, hs⟩ := build_eq_ok_iff.mp h
    have htests : ∀ t ∈ m.tests, ∀ e ∈ t.markers, e.isRegistered = true := fun t ht e he =>
      hall e (List.mem_flatMap.mpr ⟨t, ht, he⟩)
    refine ⟨suite, build_eq_ok_iff.mpr ⟨?_, hs⟩⟩
    refine ((List.forall₂_and_left _ _).mpr ⟨htests, hitems⟩).imp fun t item ⟨hreg, ht⟩ => ?_
    obtain ⟨hname, hpath, htags, hmarkers⟩ := itemOf_eq_ok_iff.mp ht
    refine itemOf_eq_ok_iff.mpr ⟨hname, hpath, htags, ?_⟩
    exact ((List.forall₂_and_left _ _).mpr ⟨hreg, hmarkers⟩).imp fun e marker ⟨hr, hm, _⟩ =>
      ⟨hm, fun _ => hr⟩

end Suite

namespace Command

/-! ## Inventories -/

namespace Inventory

theorem pairwise_sortedNames (names : List String) :
    (sortedNames names).Pairwise fun a b => Text.bytes a < Text.bytes b := by
  rw [sortedNames, List.pairwise_map]
  exact (Ordered.isOrdered_ofList _).imp Text.lt_iff_bytes_lt.mp

theorem mem_sortedNames {names : List String} {name : String} :
    name ∈ sortedNames names ↔ name ∈ names := by
  rw [sortedNames, Ordered.mem_names_ofList, List.map_map]
  simp

/-- The inventory of a suite tells its manifest's entries apart by their names. -/
theorem ofSuite_of_build {m : Manifest} {strict : Bool} {suite : Suite}
    (h : (Suite.build m strict).1 = .ok suite) : ofSuite m suite = {
      version := m.version
      name := m.name
      tests := m.tests.length
      registered := m.entries.countP (·.isRegistered)
      unregistered := m.entries.countP (!·.isRegistered)
      unregisteredNames :=
        sortedNames ((m.entries.filter (!·.isRegistered)).map MarkerEntry.name) } := by
  have htests : m.tests.length = suite.items.length := (Suite.build_eq_ok_iff.mp h).1.length_eq
  have hp : MarkerRegistry.standard.contains ∘ MarkerEntry.name = MarkerEntry.isRegistered := rfl
  simp only [ofSuite, Suite.names_of_build h, List.partition_eq_filter_filter, List.filter_map,
    List.length_map, List.countP_eq_length_filter, htests, hp]
  rfl

end Inventory

/-! ## The report -/

/-- How a line begins that tells of entries outside the vocabulary. -/
def warningLead : String := "  ⚠ "

/-- A line that tells of entries outside the vocabulary. -/
def IsWarning (line : String) : Prop :=
  warningLead.toList <+: line.toList

instance : DecidablePred IsWarning := fun line =>
  inferInstanceAs (Decidable (warningLead.toList <+: line.toList))

theorem isWarning_append (rest : String) : IsWarning (warningLead ++ rest) := by
  rw [IsWarning, String.toList_append]
  exact List.prefix_append _ _

/-- What begins in another way is no such line, whatever comes behind. -/
theorem not_isWarning_append {lead : String} (h : ¬warningLead.toList <+: lead.toList)
    (h' : ¬lead.toList <+: warningLead.toList) (rest : String) : ¬IsWarning (lead ++ rest) := by
  intro hw
  have hlead : lead.toList <+: (lead ++ rest).toList := by
    rw [String.toList_append]
    exact List.prefix_append _ _
  exact (List.prefix_or_prefix_of_prefix hw hlead).elim h h'

theorem not_isWarning_front (path : String) (i : Inventory) :
    ∀ line ∈ ["Validating " ++ path ++ "...", "✓ Manifest valid", "  Version: " ++ i.version] ++
      (i.name.map fun name => "  Name: " ++ name).toList ++
      ["  Tests: " ++ toString i.tests, "  Markers: " ++ toString i.registered], ¬IsWarning line := by
  simp only [List.forall_mem_append, List.forall_mem_cons, List.not_mem_nil, false_implies,
    implies_true, and_true, Option.mem_toList,
    Option.map_eq_some_iff]
  refine ⟨⟨⟨?_, by decide, ?_⟩, ?_⟩, ?_, ?_⟩
  · rw [String.append_assoc]
    exact not_isWarning_append (by decide) (by decide) _
  · exact not_isWarning_append (by decide) (by decide) _
  · rintro _ ⟨name, -, rfl⟩
    exact not_isWarning_append (by decide) (by decide) _
  · exact not_isWarning_append (by decide) (by decide) _
  · exact not_isWarning_append (by decide) (by decide) _

/-- The line about entries outside the vocabulary is there when there are any. -/
theorem forall_not_isWarning_iff (path : String) (i : Inventory) :
    (∀ line ∈ ("Validating " ++ path ++ "...") :: i.lines, ¬IsWarning line) ↔ i.unregistered = 0 := by
  have hlines : ("Validating " ++ path ++ "...") :: i.lines =
      ["Validating " ++ path ++ "...", "✓ Manifest valid", "  Version: " ++ i.version] ++
        (i.name.map fun name => "  Name: " ++ name).toList ++
        ["  Tests: " ++ toString i.tests, "  Markers: " ++ toString i.registered] ++
        if i.unregistered = 0 then [] else [i.unregisteredLine] := rfl
  have hwarning : IsWarning i.unregisteredLine := by
    rw [Inventory.unregisteredLine, String.append_assoc, String.append_assoc]
    exact isWarning_append _
  rw [hlines, List.forall_mem_append, and_iff_right (not_isWarning_front path i)]
  split
  · simp [*]
  · simp [*]

variable {σ : Type} {machine : Machine (StateM σ)} {path : String} {content : Except FileError String}

theorem outcome_validate_of_build (hr : machine.Reads path content) {m : Manifest}
    (hm : Manifest.ofContent machine.vars content = .ok m) {strict : Bool} {suite : Suite}
    (hs : (Suite.build m strict).1 = .ok suite) (s : σ) : outcome machine path (.validate strict) s =
      { lines := ("Validating " ++ path ++ "...") :: (Inventory.ofSuite m suite).lines } := by
  have hy : Yields (· = { lines := ("Validating " ++ path ++ "...") ::
      (Inventory.ofSuite m suite).lines }) (validate machine path strict) := by
    unfold validate
    refine hr.yields_readManifest.bind fun read hread => ?_
    rw [hread, hm]
    rcases hb : Suite.build m strict with ⟨result, log⟩
    rw [hb] at hs
    cases hs
    simp only [hb]
    exact .after _ fun _ => .pure rfl
  exact hy s

theorem exitCode_validate_strict (hr : machine.Reads path content) {m : Manifest}
    (hm : Manifest.ofContent machine.vars content = .ok m) {strict : Bool} {suite : Suite}
    (hs : (Suite.build m strict).1 = .ok suite) (s : σ) :
    (outcome machine path (.validate true) s).exitCode = 0 ↔
      ∀ e ∈ m.entries, e.isRegistered = true := by
  rw [exitCode_validate hr, builds_iff hm, Suite.exists_build_strict_iff hs]

/-- The report on a manifest that is accepted: the number of its tests, the number of its entries in the
vocabulary and, where there are any, the number and the names of those outside. The two numbers come to that
of all entries, the names are in the order of their bytes and are those of the entries outside, and the line
about them is absent just when a strict validation accepts the manifest. -/
theorem validate_counts (hr : machine.Reads path content) {strict : Bool} {s : σ}
    (h : (outcome machine path (.validate strict) s).exitCode = 0) :
    let lines := (outcome machine path (.validate strict) s).lines
    ∃ m registered unregistered names, Manifest.ofContent machine.vars content = .ok m ∧
      lines =
        ["Validating " ++ path ++ "...", "✓ Manifest valid", "  Version: " ++ m.version] ++
          (m.name.map fun name => "  Name: " ++ name).toList ++
          ["  Tests: " ++ toString m.tests.length, "  Markers: " ++ toString registered] ++
          (if unregistered = 0 then [] else
            [warningLead ++ toString unregistered ++ " unregistered marker(s) will be ignored: " ++
              ", ".intercalate names]) ∧
      registered = m.entries.countP (MarkerRegistry.standard.contains ·.name) ∧
      registered + unregistered = m.entries.length ∧
      names.Pairwise (fun a b => Text.bytes a < Text.bytes b) ∧
      (∀ name, name ∈ names ↔ MarkerRegistry.standard.contains name = false ∧
        ∃ t ∈ m.tests, ∃ e ∈ t.markers, e.name = name) ∧
      ((∀ line ∈ lines, ¬IsWarning line) ↔
        ∀ s', (outcome machine path (.validate true) s').exitCode = 0) := by
  obtain ⟨m, suite, hm, hs⟩ := (exitCode_validate hr strict s).mp h
  intro lines
  have hlines : lines = ("Validating " ++ path ++ "...") :: (Inventory.ofSuite m suite).lines :=
    congrArg Outcome.lines (outcome_validate_of_build hr hm hs s)
  rw [Inventory.ofSuite_of_build hs] at hlines
  refine ⟨m, _, _, _, hm, hlines, rfl, ?_, Inventory.pairwise_sortedNames _, fun name => ?_, ?_⟩
  · rw [List.length_eq_countP_add_countP MarkerEntry.isRegistered]
    simp only [Bool.not_eq_true, Bool.decide_eq_false]
  · simp only [Inventory.mem_sortedNames, List.mem_map, List.mem_filter, Manifest.entries,
      List.mem_flatMap, MarkerEntry.isRegistered, Bool.not_eq_true']
    constructor
    · rintro ⟨e, ⟨⟨t, ht, he⟩, hr⟩, rfl⟩
      exact ⟨hr, t, ht, e, he, rfl⟩
    · rintro ⟨hr, t, ht, e, he, rfl⟩
      exact ⟨e, ⟨⟨t, ht, he⟩, hr⟩, rfl⟩
  · have hnone : m.entries.countP (!·.isRegistered) = 0 ↔ ∀ e ∈ m.entries, e.isRegistered = true := by
      simp [List.countP_eq_zero]
    rw [hlines, forall_not_isWarning_iff, hnone]
    simp only [exitCode_validate_strict hr hm hs]
    exact ⟨fun hall _ => hall, fun hall => hall s⟩

/-- A manifest with one entry of the vocabulary and three outside, two of them of one name. -/
def slowTests : Manifest where
  version := "1.0"
  tests := [⟨"a", "p", [.bare "slow", .bare "skip_if_not_root"]⟩,
    ⟨"b", "p", [.bare "big", .bare "slow"]⟩]

/-- What writes it. -/
def slowTestsText : String :=
  "version: 1.0\ntests: [{name: a, path: p, markers: [slow, skip_if_not_root]}, " ++
    "{name: b, path: p, markers: [big, slow]}]\n"

theorem validate_counts_slowTests :
    let w := World.holding slowTestsText
    let lines := (outcome w.machine defaultManifest (.validate false) []).lines
    ∃ names,
      lines = ["Validating gate.yaml...", "✓ Manifest valid", "  Version: 1.0", "  Tests: 2",
        "  Markers: 1", "  ⚠ 3 unregistered marker(s) will be ignored: " ++ ", ".intercalate names] ∧
      names.Pairwise (fun a b => Text.bytes a < Text.bytes b) ∧
      (∀ name, name ∈ names ↔ name = "slow" ∨ name = "big") ∧
      ∃ s, (outcome w.machine defaultManifest (.validate true) s).exitCode ≠ 0 := by
  intro w lines
  have hreads := (World.shows_holding slowTestsText).reads
  have hm : Manifest.ofText w.vars slowTestsText = .ok slowTests :=
    toOption_eq_some_iff.mp (by decide +kernel)
  have hbuilt : (Suite.build slowTests false).1.toOption.isSome := by decide +kernel
  obtain ⟨suite, hs⟩ := Option.isSome_iff_exists.mp hbuilt
  have hzero : (outcome w.machine defaultManifest (.validate false) []).exitCode = 0 :=
    (exitCode_validate hreads _ _).mpr ⟨slowTests, suite, hm, toOption_eq_some_iff.mp hs⟩
  obtain ⟨m, registered, unregistered, names, hm', hlines, hreg, hsum, hnames, hmem, hstrict⟩ :=
    validate_counts hreads hzero
  cases Except.ok.inj (hm.symm.trans hm')
  have hone : registered = 1 := hreg.trans (by decide +kernel)
  have hthree : unregistered = 3 := by
    have hfour : slowTests.entries.length = 4 := rfl
    omega
  subst hone hthree
  have houtside : ∀ t ∈ slowTests.tests, ∀ e ∈ t.markers,
      MarkerRegistry.standard.contains e.name = false → e.name = "slow" ∨ e.name = "big" := by
    decide +kernel
  refine ⟨names, hlines, hnames, fun name => ?_, ?_⟩
  · rw [hmem]
    constructor
    · rintro ⟨hr, t, ht, e, he, rfl⟩
      exact houtside t ht e he hr
    · rintro (rfl | rfl) <;> decide +kernel
  · by_contra hall
    simp only [not_exists, not_not] at hall
    have hline : warningLead ++ ("3 unregistered marker(s) will be ignored: " ++
        ", ".intercalate names) ∈
        (outcome w.machine defaultManifest (.validate false) []).lines := by
      rw [hlines, ← String.append_assoc]
      exact List.mem_append_right _ List.mem_cons_self
    exact hstrict.mpr hall _ hline (isWarning_append _)

end Command

end TestSelection
