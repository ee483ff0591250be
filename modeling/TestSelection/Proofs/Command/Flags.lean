import TestSelection.Proofs.Command.Results
import TestSelection.Proofs.Gate.Improvement
import TestSelection.Proofs.Gate.Restriction

/-!
# Flags of the command line

A flag stands for a setting of the manifest: with it a manifest is evaluated as one that has the setting on.
No suite depends on it, and the gate looks at it in one rule only. So a flag turns on tests that this rule
skipped, they may be skipped by a later rule then, and no other decision changes (`evaluate_enabling`).
-/
namespace TestSelection

/-- A manifest with the settings that flags ask for turned on. -/
def Manifest.enabling (m : Manifest) (flags : RunConfiguration) : Manifest :=
  { m with settings := { m.settings with
      runDestructive := m.settings.runDestructive || flags.runDestructive
      runExpensive := m.settings.runExpensive || flags.runExpensive } }

theorem RunConfiguration.merge_empty (config : RunConfiguration) : config.merge {} = config := by
  simp [merge]

theorem HostAnswers.Within.refl (host : HostAnswers) : host.Within host where
  userId := .inr rfl
  which _ h := h
  localNetwork h := h
  externalNetwork h := h

/-! ## Suites -/

/-- Nothing in a suite depends on what is turned on but the run configuration itself. -/
theorem Suite.build_enabling (m : Manifest) (flags : RunConfiguration) (strict : Bool) :
    (build (m.enabling flags) strict).1 = (build m strict).1.map fun suite =>
      { suite with runConfiguration := suite.runConfiguration.merge flags } := by
  rw [build_eq, build_eq, andThen_fst, andThen_fst]
  simp only [Manifest.enabling, ofItems]
  cases (collect (strict || m.settings.strictMarkers)
    (Classifier.ofCategories m.settings.categories) m.tests).1 with
  | error e => rfl
  | ok items => cases ProbeSettings.ofNetwork m.settings.network <;> rfl

/-! ## Decisions -/

namespace Gate

variable {host : HostAnswers} {config flags : RunConfiguration} {markers : List Marker}

/-- What is turned on takes reasons away and gives none. -/
theorem reasonAt_merge (n : Nat) (marker : Marker) :
    reasonAt (fun _ => host) (config.merge flags) n marker = none ∨
      reasonAt (fun _ => host) (config.merge flags) n marker =
        reasonAt (fun _ => host) config n marker := by
  cases marker with
  | destructive => cases h : flags.runDestructive <;> simp [reasonAt, RunConfiguration.merge, h]
  | expensive => cases h : flags.runExpensive <;> simp [reasonAt, RunConfiguration.merge, h]
  | needsBinaries binaries checkAll message => cases checkAll <;> exact .inr rfl
  | needsRoot | needsNetwork onlyLocal | unregistered name => exact .inr rfl

/-- The reasons that it takes away are those of the configuration. -/
theorem reasonAt_merge_of_kind {n : Nat} {marker : Marker} {reason : SkipReason}
    (h : reasonAt (fun _ => host) config n marker = some reason)
    (hk : reason.kind ≠ .configurationDisabled) :
    reasonAt (fun _ => host) (config.merge flags) n marker = some reason := by
  cases marker with
  | destructive | expensive =>
      simp only [reasonAt, Option.ite_none_left_eq_some, Option.some.injEq] at h
      obtain ⟨-, rfl⟩ := h
      exact absurd rfl hk
  | needsBinaries binaries checkAll message => cases checkAll <;> exact h
  | needsRoot | needsNetwork onlyLocal | unregistered name => exact h

theorem outcome_merge_of_run (h : outcome host config markers = .run) :
    outcome host (config.merge flags) markers = .run := by
  have hrank := rank_outcome_le_of_within (config.within_merge flags) (.refl host) markers
  rw [h] at hrank
  exact Decision.eq_run_of_le hrank

/-- A reason that is not one of the configuration still comes first. -/
theorem outcome_merge_of_kind {reason : SkipReason} (h : outcome host config markers = .skip reason)
    (hk : reason.kind ≠ .configurationDisabled) :
    outcome host (config.merge flags) markers = .skip reason := by
  refine Decision.ofReason?_eq_skip_iff.mpr
    (findSome?_eq_some_of_le (Decision.ofReason?_eq_skip_iff.mp h) (fun r => ?_) fun r hr => ?_)
  · unfold Rule.reason?
    cases r.first? markers with
    | none => exact .inl rfl
    | some marker => exact reasonAt_merge 0 marker
  · obtain ⟨marker, hm, hreason⟩ := Option.bind_eq_some_iff.mp hr
    exact Option.bind_eq_some_iff.mpr ⟨marker, hm, reasonAt_merge_of_kind hreason hk⟩

end Gate

namespace Command

/-! ## Machines with other files -/

section

variable {σ : Type}

/-- A machine with the files of a tree and all the rest of another machine. -/
def Machine.withFiles (machine : Machine (StateM σ)) (files : FileTree) : Machine (StateM σ) :=
  { machine with
    hasPath := fun path => return files.hasPath path
    readFile := fun path => return files.read path }

theorem Machine.reads_withFiles (machine : Machine (StateM σ)) (files : FileTree) (path : String) :
    (machine.withFiles files).Reads path (files.read path) :=
  fun _ => rfl

/-- The files are none of the host's answers. -/
theorem Machine.IsSteady.withFiles {machine : Machine (StateM σ)}
    {answers : ProbeSettings → HostAnswers} (h : machine.IsSteady answers) (files : FileTree) :
    (machine.withFiles files).IsSteady answers :=
  fun probes => h probes

end

/-! ## Results -/

/-- What turning something on does to the result of a test. -/
structure Enabled (before after : Evaluation) : Prop where
  test : after.test = before.test
  path : after.path = before.path
  tags : after.tags = before.tags
  run : before.decision = .run → after.decision = .run
  skip : after.decision ≠ before.decision →
    ∃ reason, before.decision = .skip reason ∧ reason.kind = .configurationDisabled

theorem enabled_resultOf (answers : HostAnswers) (config flags : RunConfiguration) (item : TestItem) :
    Enabled (resultOf answers config item) (resultOf answers (config.merge flags) item) := by
  refine ⟨rfl, rfl, rfl, Gate.outcome_merge_of_run, fun hne => ?_⟩
  cases hd : Gate.outcome answers config item.markers with
  | run => exact absurd ((Gate.outcome_merge_of_run hd).trans hd.symm) hne
  | skip reason =>
      refine ⟨reason, hd, ?_⟩
      by_contra hk
      exact hne ((Gate.outcome_merge_of_kind hd hk).trans hd.symm)

theorem forall₂_enabled (answers : ProbeSettings → HostAnswers) (suite : Suite)
    (flags : RunConfiguration) (tag : Option String) :
    List.Forall₂ Enabled (tagged tag (resultsOf answers suite {}))
      (tagged tag (resultsOf answers suite flags)) := by
  rw [resultsOf, resultsOf, ← map_selected, ← map_selected, List.forall₂_map_left_iff,
    List.forall₂_map_right_iff, List.forall₂_same, RunConfiguration.merge_empty]
  exact fun item _ => enabled_resultOf _ _ flags item

theorem evaluated_enabling (answers : ProbeSettings → HostAnswers) (path : String)
    (flags : RunConfiguration) (tag : Option String) (format : Format) (m : Manifest) :
    evaluated answers path {} tag format (.ok (m.enabling flags)) =
      evaluated answers path flags tag format (.ok m) := by
  rw [evaluated, evaluated, Suite.build_enabling]
  cases (Suite.build m false).1 with
  | error e => rfl
  | ok suite =>
      simp only [Except.map, resultsOf, RunConfiguration.merge_empty]

/-- The word of no format is refused before anything is looked at. -/
theorem outcome_evaluate_unknown {σ : Type} (machine : Machine (StateM σ)) (path : String)
    (flags : RunConfiguration) (tag : Option String) {word : String} (h : Format.parse? word = none)
    (s : σ) : outcome machine path (.evaluate flags tag word) s =
      { failure := some (Format.unknown word) } := by
  rw [outcome, Action.run, evaluate, h]
  rfl

/-- Two steady machines with the same answers, one with a manifest and the other with the same manifest but
for the settings that flags turn on: the flags on the one give what no flags give on the other. On one machine
they give the same tests with the same paths and tags, no test that ran is skipped, and the tests that are
decided in another way were disabled by the configuration. -/
theorem evaluate_enabling {σ τ : Type} {machine : Machine (StateM σ)} {machine' : Machine (StateM τ)}
    {answers : ProbeSettings → HostAnswers} {path : String} {content content' : Except FileError String}
    (hr : machine.Reads path content) (hr' : machine'.Reads path content')
    (h : machine.IsSteady answers) (h' : machine'.IsSteady answers) {m : Manifest}
    {flags : RunConfiguration} (hm : Manifest.ofContent machine.vars content = .ok m)
    (hm' : Manifest.ofContent machine'.vars content' = .ok (m.enabling flags)) (tag : Option String) :
    (∀ word s t, outcome machine path (.evaluate flags tag word) s =
      outcome machine' path (.evaluate {} tag word) t) ∧
    (∀ suite s s', List.Forall₂ Enabled ((report machine suite {} tag).run s).1.results
      ((report machine suite flags tag).run s').1.results) ∧
    ∀ s s',
      let before := outcome machine path (.evaluate {} tag "json") s
      let after := outcome machine path (.evaluate flags tag "json") s'
      (before.exitCode ≠ 0 ∧ after = before) ∨
      ∃ suite, (Suite.build m false).1 = .ok suite ∧ before.exitCode = 0 ∧ after.exitCode = 0 ∧
        IsJsonReport ((report machine suite {} tag).run s).1.results before.lines ∧
        IsJsonReport ((report machine suite flags tag).run s').1.results after.lines := by
  refine ⟨fun word s t => ?_, fun suite s s' => ?_, fun s s' => ?_⟩
  · cases hword : Format.parse? word with
    | none => rw [outcome_evaluate_unknown _ _ _ _ hword, outcome_evaluate_unknown _ _ _ _ hword]
    | some format =>
        rw [outcome_evaluate hr h flags tag hword, outcome_evaluate hr' h' {} tag hword,
          hm, hm', evaluated_enabling]
  · rw [report_fst h, report_fst h]
    exact forall₂_enabled answers suite flags tag
  · intro before after
    have hbefore : before = _ := outcome_evaluate hr h {} tag rfl s
    have hafter : after = _ := outcome_evaluate hr h flags tag rfl s'
    rw [hbefore, hafter, hm, evaluated, evaluated]
    cases hb : (Suite.build m false).1 with
    | error e => exact .inl ⟨Nat.one_ne_zero, rfl⟩
    | ok suite =>
        refine .inr ⟨suite, rfl, rfl, rfl, ?_⟩
        rw [report_fst h, report_fst h]
        exact ⟨isJsonReport_lines ⟨_⟩ path tag, isJsonReport_lines ⟨_⟩ path tag⟩

/-- A manifest of a destructive test for root and of a plain test. -/
def userTests : Manifest where
  version := "1.0"
  tests := [⟨"a", "t/unit/a", [.bare "destructive_test", .bare "skip_if_not_root"]⟩, ⟨"b", "b", []⟩]

/-- What writes it, behind some settings. -/
def userTestsText (settings : String) : String :=
  "version: 1.0\n" ++ settings ++ "tests: [" ++
    "{name: a, path: t/unit/a, markers: [destructive_test, skip_if_not_root]}, " ++
    "{name: b, path: b}]\n"

/-- Behind the reason that the flag takes away there is another one. -/
theorem evaluate_enabling_userTests :
    let w := World.holding (userTestsText "")
    let w' := World.holding (userTestsText "settings: {run_destructive: true}\n")
    let machine' := w.machine.withFiles w'.files
    let outcome (machine : Machine (StateM Log)) (flags : RunConfiguration) :=
      outcome machine defaultManifest (.evaluate flags none "json") []
    let flags : RunConfiguration := { runDestructive := true }
    let a (reason : SkipReason) : Evaluation := ⟨"a", "t/unit/a", ["unit"], .skip reason⟩
    let b : Evaluation := ⟨"b", "b", [], .run⟩
    outcome w.machine flags = outcome machine' {} ∧
      List.Forall₂ Enabled [a .destructiveDisabled, b] [a .notRoot, b] ∧
      IsJsonReport [a .destructiveDisabled, b] (outcome w.machine {}).lines ∧
      IsJsonReport [a .notRoot, b] (outcome w.machine flags).lines := by
  intro w w' machine' outcome flags a b
  have hreads := (World.shows_holding (userTestsText "")).reads
  have hreads' := w.machine.reads_withFiles w'.files defaultManifest
  rw [World.read_holding] at hreads'
  have hm : Manifest.ofText w.vars (userTestsText "") = .ok userTests :=
    toOption_eq_some_iff.mp (by decide +kernel)
  have hm' : Manifest.ofText machine'.vars (userTestsText "settings: {run_destructive: true}\n") =
      .ok (userTests.enabling flags) :=
    toOption_eq_some_iff.mp (by decide +kernel)
  have hbuilt : (Suite.build userTests false).1.toOption.map
      (fun suite => (resultsOf w.answers suite {}, resultsOf w.answers suite flags)) =
      some ([a .destructiveDisabled, b], [a .notRoot, b]) := by
    decide +kernel
  obtain ⟨suite, hs, hresults⟩ := Option.map_eq_some_iff.mp hbuilt
  replace hs := toOption_eq_some_iff.mp hs
  have hzero : (outcome w.machine {}).exitCode = 0 :=
    (exitCode_evaluate hreads _ _ _ _).mpr ⟨by decide, userTests, suite, hm, hs⟩
  obtain ⟨hsame, hforall, hrun⟩ := evaluate_enabling hreads hreads' w.isSteady
    (w.isSteady.withFiles w'.files) hm hm' none
  have hreport (flags : RunConfiguration) :
      ((report w.machine suite flags none).run []).1.results = resultsOf w.answers suite flags := by
    rw [report_fst w.isSteady]
    rfl
  obtain ⟨hbefore, hafter⟩ := Prod.mk.inj hresults
  have hall := hforall suite [] []
  rw [hreport, hreport, hbefore, hafter] at hall
  obtain ⟨hne, -⟩ | ⟨suite', hs', -, -, hjson, hjson'⟩ := hrun [] []
  · exact absurd hzero hne
  · cases Except.ok.inj (hs.symm.trans hs')
    rw [hreport, hbefore] at hjson
    rw [hreport, hafter] at hjson'
    exact ⟨hsame _ _ _, hall, hjson, hjson'⟩

end Command

end TestSelection
