import TestSelection.Command.Machine
import TestSelection.Proofs.Gate.Rule
import TestSelection.Proofs.Probe.Attempt

/-!
# Decisions by sockets

The network rule on a machine whose sockets may fail as they like. Whatever comes of each attempt, the rule
has the test run or be skipped and does nothing else but log: the local network is looked for only where it
is required, and a connection is tried only where it is there (`evaluate_dialing`).
-/
namespace TestSelection

/-- A machine whose sockets come out in some way, with a record of what is tried on them. -/
def Command.Machine.dialing {m : Type → Type} [Monad m] (machine : Machine m) (o : SocketOutcomes) :
    Machine (StateT (List SocketAttempt) m) where
  effectiveUserId := liftM machine.effectiveUserId
  hasPath path := liftM (machine.hasPath path)
  readFile path := liftM (machine.readFile path)
  isExecutable path := liftM (machine.isExecutable path)
  sockets := o.sockets
  log e := liftM (machine.log e)
  vars := machine.vars

/-! ## Questions from a larger monad -/

section Lift

variable {m n : Type → Type} [Monad m] [Monad n] [MonadLiftT m n] [LawfulMonadLiftT m n]

theorem SearchPath.firstExecutable_liftM (isExecutable : String → m Bool) (paths : List String) :
    firstExecutable (fun path => (liftM (isExecutable path) : n Bool)) paths =
      liftM (firstExecutable isExecutable paths) := by
  induction paths with
  | nil => exact (liftM_pure _).symm
  | cons path rest ih =>
      rw [firstExecutable, firstExecutable, liftM_bind, ih]
      congr 1
      funext found
      cases found with
      | true => exact (liftM_pure _).symm
      | false => rfl

/-- The user and the binaries of a host, as they are asked for from a larger monad. -/
structure HostEnvironment.Lifts (host' : HostEnvironment n) (host : HostEnvironment m) : Prop where
  effectiveUserId : host'.effectiveUserId = liftM host.effectiveUserId
  which : ∀ b, host'.which b = liftM (host.which b)

variable {host' : HostEnvironment n} {host : HostEnvironment m} (h : host'.Lifts host)
include h

theorem HostEnvironment.Lifts.whichAny (binaries : List String) :
    host'.whichAny binaries = liftM (host.whichAny binaries) := by
  induction binaries with
  | nil => exact (liftM_pure _).symm
  | cons b rest ih =>
      rw [HostEnvironment.whichAny, HostEnvironment.whichAny, liftM_bind, h.which, ih]
      congr 1
      funext found
      cases found with
      | some path => exact (liftM_pure _).symm
      | none => rfl

theorem HostEnvironment.Lifts.firstMissing (binaries : List String) :
    host'.firstMissing binaries = liftM (host.firstMissing binaries) := by
  induction binaries with
  | nil => exact (liftM_pure _).symm
  | cons b rest ih =>
      rw [HostEnvironment.firstMissing, HostEnvironment.firstMissing, liftM_bind, h.which, ih]
      congr 1
      funext found
      cases found with
      | some path => rfl
      | none => exact (liftM_pure _).symm

namespace Gate

theorem rootRule_lift (markers : List Marker) :
    rootRule host' markers = liftM (rootRule host markers) := by
  unfold rootRule
  split
  · rw [h.effectiveUserId, liftM_bind]
    congr 1
    funext user
    exact (liftM_pure _).symm
  · exact (liftM_pure _).symm

theorem binariesRule_lift (markers : List Marker) :
    binariesRule host' markers = liftM (binariesRule host markers) := by
  unfold binariesRule
  split
  · exact (liftM_pure _).symm
  · exact (liftM_pure _).symm
  · rw [h.firstMissing, liftM_bind]
    congr 1
    funext missing
    exact (liftM_pure _).symm
  · rw [h.whichAny, liftM_bind]
    congr 1
    funext found
    exact (liftM_pure _).symm

/-- The rules that are asked before the network. -/
def Rule.beforeNetwork : List Rule :=
  [.destructive, .expensive, .root, .binaries]

theorem Rule.ask_lift (config : RunConfiguration) (markers : List Marker) {r : Rule}
    (hr : r ∈ beforeNetwork) : r.ask host' config markers = liftM (r.ask host config markers) := by
  cases r with
  | destructive => exact (liftM_pure _).symm
  | expensive => exact (liftM_pure _).symm
  | root => exact rootRule_lift h markers
  | binaries => exact binariesRule_lift h markers
  | network => exact absurd hr (by decide)

theorem firstReason_lift (config : RunConfiguration) (markers : List Marker) {rules : List Rule}
    (hrules : rules ⊆ Rule.beforeNetwork) :
    firstReason (rules.map (Rule.ask host' config markers)) =
      liftM (firstReason (rules.map (Rule.ask host config markers))) := by
  induction rules with
  | nil => exact (liftM_pure _).symm
  | cons r rest ih =>
      obtain ⟨hr, hrest⟩ := List.cons_subset.mp hrules
      rw [List.map_cons, List.map_cons, firstReason, firstReason, liftM_bind, ih hrest,
        Rule.ask_lift h config markers hr]
      congr 1
      funext reason
      cases reason with
      | some reason => exact (liftM_pure _).symm
      | none => rfl

end Gate

end Lift

/-! ## The rule about the network -/

open SocketAttempt

/-- What is decided about a test that needs the network, and what is tried for it. -/
inductive SocketOutcomes.Decides (o : SocketOutcomes) (probes : ProbeSettings) (onlyLocal : Bool)
    (record : List SocketAttempt) : Decision → List SocketAttempt → Prop
  /-- The local network is required and missing: no connection is tried. -/
  | noLocal : onlyLocal = true → o.bindsLocal record probes = false →
      Decides o probes onlyLocal record (.skip .noLocalNetwork) (o.localAttempts record probes)
  /-- Else the test runs just when an address is reached. -/
  | internet {reached : Option Endpoint} {dials : List SocketAttempt} :
      (onlyLocal = true → o.bindsLocal record probes = true) →
      o.FirstReached probes.connectTimeout (connects record) probes.endpoints reached dials →
      Decides o probes onlyLocal record (if reached.isSome then .run else .skip .noInternet)
        ((if onlyLocal then o.localAttempts record probes else []) ++ dials)

theorem SocketOutcomes.Decides.eq_run_iff {o : SocketOutcomes} {probes : ProbeSettings}
    {onlyLocal : Bool} {record tried : List SocketAttempt} {decision : Decision}
    (h : o.Decides probes onlyLocal record decision tried) : decision = .run ↔
      (∃ i a, probes.externalAddresses[i]? = some a ∧
        (o.connect (connects record + i) ⟨a, probes.externalPort⟩).isOk = true) ∧
      (onlyLocal = true → o.bindsLocal record probes = true) := by
  cases h with
  | noLocal hlocal hb =>
      refine iff_of_false nofun fun hrun => ?_
      rw [hrun.2 hlocal] at hb
      cases hb
  | @internet reached dials hb hreached =>
      have hrun : (if reached.isSome then Decision.run else .skip .noInternet) = .run ↔
          reached.isSome = true := by cases reached <;> simp
      rw [hrun, hreached.isSome_iff, and_iff_left hb]
      simp only [ProbeSettings.endpoints, List.getElem?_map, Option.map_eq_some_iff]
      constructor
      · rintro ⟨i, _, ⟨a, ha, rfl⟩, hok⟩
        exact ⟨i, a, ha, hok⟩
      · rintro ⟨i, a, ha, hok⟩
        exact ⟨i, _, ⟨a, ha, rfl⟩, hok⟩

section Dialing

variable {m : Type → Type} [Monad m] [LawfulMonad m] (machine : Command.Machine m) (o : SocketOutcomes)
  (probes : ProbeSettings) (record : List SocketAttempt)

theorem dialing_lifts : ((machine.dialing o).host probes).Lifts (machine.host probes) where
  effectiveUserId := rfl
  which _ := SearchPath.firstExecutable_liftM machine.isExecutable _

namespace Gate

/-- What the gate makes of the internet. -/
def internetReason (reached : Option Endpoint) : Option SkipReason :=
  if reached.isSome then none else some .noInternet

theorem ofReason?_internetReason (reached : Option Endpoint) :
    Decision.ofReason? (internetReason reached) =
      if reached.isSome then .run else .skip .noInternet := by
  cases reached <;> rfl

theorem tries_internet : ∃ reached dials,
    o.FirstReached probes.connectTimeout (connects record) probes.endpoints reached dials ∧
      Tries machine.log
        (do return if ← ((machine.dialing o).host probes).hasExternalNetwork then none
          else some SkipReason.noInternet)
        record (internetReason reached) dials := by
  obtain ⟨reached, dials, hreached, htries⟩ := o.tries_externalNetwork record machine.log probes
  exact ⟨reached, dials, hreached,
    (htries.bind_quiet fun _ => .pure reached.isSome).bind_quiet fun _ => .pure _⟩

theorem tries_networkRule {markers : List Marker} {onlyLocal : Bool}
    (h : networkOf? markers = some onlyLocal) : ∃ reason tried,
      o.Decides probes onlyLocal record (.ofReason? reason) tried ∧
        Tries machine.log (networkRule ((machine.dialing o).host probes) markers) record reason
          tried := by
  have hlocal := o.tries_localNetwork record machine.log probes
  unfold networkRule
  rw [h]
  cases onlyLocal with
  | false =>
      obtain ⟨reached, dials, hreached, htries⟩ := tries_internet machine o probes record
      refine ⟨internetReason reached, dials, ?_, htries⟩
      rw [ofReason?_internetReason]
      exact .internet nofun hreached
  | true =>
      cases hb : o.bindsLocal record probes with
      | false =>
          rw [hb] at hlocal
          exact ⟨some .noLocalNetwork, _, .noLocal rfl hb, hlocal.bind_quiet fun _ => .pure _⟩
      | true =>
          rw [hb] at hlocal
          obtain ⟨reached, dials, hreached, htries⟩ := tries_internet machine o probes
            (record ++ o.localAttempts record probes)
          -- The binds before do not count among the connections.
          rw [connects_append, o.connects_localAttempts, Nat.add_zero] at hreached
          refine ⟨internetReason reached, o.localAttempts record probes ++ dials, ?_,
            hlocal.bind htries⟩
          rw [ofReason?_internetReason]
          exact .internet (fun _ => hb) hreached

/-- The last rule is asked where the rules before it have no reason. -/
theorem firstReason_append_singleton (rules : List (m (Option SkipReason)))
    (rule : m (Option SkipReason)) : firstReason (rules ++ [rule]) = (do
      match ← firstReason rules with
      | some reason => return some reason
      | none => rule) := by
  induction rules with
  | nil =>
      rw [List.nil_append, firstReason, firstReason, pure_bind]
      refine (bind_congr fun reason => ?_).trans (bind_pure rule)
      cases reason <;> rfl
  | cons first rest ih =>
      rw [List.cons_append, firstReason, firstReason, bind_assoc, ih]
      refine bind_congr fun reason => ?_
      cases reason with
      | none => rfl
      | some reason => rw [pure_bind]

theorem run_evaluate_dialing (config : RunConfiguration) (item : TestItem) :
    (evaluate ((machine.dialing o).host probes) config item).run record = (do
      match ← firstReason
        (Rule.beforeNetwork.map (Rule.ask (machine.host probes) config item.markers)) with
      | some reason => return (.skip reason, record)
      | none =>
        let (reason, record) ←
          (networkRule ((machine.dialing o).host probes) item.markers).run record
        return (.ofReason? reason, record)) := by
  have horder (ask : Rule → StateT (List SocketAttempt) m (Option SkipReason)) :
      Rule.order.map ask = Rule.beforeNetwork.map ask ++ [ask .network] := rfl
  rw [evaluate_eq, horder, firstReason_append_singleton,
    firstReason_lift (dialing_lifts machine o probes) config item.markers (List.Subset.refl _),
    bind_assoc, StateT.run_bind]
  have hlift (x : m (Option SkipReason)) :
      (liftM x : StateT (List SocketAttempt) m (Option SkipReason)).run record =
        x >>= fun a => pure (a, record) := rfl
  rw [hlift, bind_assoc]
  refine bind_congr fun reason => ?_
  rw [pure_bind]
  cases reason with
  | some reason =>
      dsimp only
      rw [pure_bind]
      rfl
  | none => exact StateT.run_bind _ _ _

/-- A test that needs the network, on a machine whose sockets come out in any way. Where no rule before has a
reason to skip it, it runs just when a listed address accepts a connection and, if only the local network is
required, both ports can be bound in version 4 or both in version 6; else it is skipped for the network that
is missing, and nothing else is done but to try what `Decides` tells and to log. The probes themselves give
what they find behind the attempts that it takes. -/
theorem evaluate_dialing (config : RunConfiguration) {item : TestItem} {onlyLocal : Bool}
    (h : networkOf? item.markers = some onlyLocal) :
    (∃ decision tried, ∃ events : Log,
      (evaluate ((machine.dialing o).host probes) config item).run record = (do
        match ← firstReason
          (Rule.beforeNetwork.map (Rule.ask (machine.host probes) config item.markers)) with
        | some reason => return (.skip reason, record)
        | none =>
          events.forM machine.log
          return (decision, record ++ tried)) ∧
      (decision = .run ↔
        (∃ i a, probes.externalAddresses[i]? = some a ∧
          (o.connect (connects record + i) ⟨a, probes.externalPort⟩).isOk = true) ∧
        (onlyLocal = true → o.bindsLocal record probes = true)) ∧
      o.Decides probes onlyLocal record decision tried) ∧
    (∃ reached tried,
      o.FirstReached probes.connectTimeout (connects record) probes.endpoints reached tried ∧
      Tries machine.log
        (Probe.externalNetwork (machine.dialing o).sockets (machine.dialing o).log probes) record
        reached tried) ∧
    Tries machine.log (Probe.localNetwork (machine.dialing o).sockets (machine.dialing o).log probes)
      record (o.bindsLocal record probes) (o.localAttempts record probes) := by
  refine ⟨?_, o.tries_externalNetwork record machine.log probes,
    o.tries_localNetwork record machine.log probes⟩
  obtain ⟨reason, tried, hdecides, events, hrun⟩ :=
    tries_networkRule machine o probes record h
  refine ⟨.ofReason? reason, tried, events, ?_, hdecides.eq_run_iff, hdecides⟩
  rw [run_evaluate_dialing, hrun]
  refine bind_congr fun first => ?_
  cases first with
  | some reason => rfl
  | none =>
      dsimp only
      rw [bind_assoc]
      refine bind_congr fun _ => ?_
      rw [pure_bind]

end Gate

end Dialing

namespace Gate

/-- An address that is listed twice is reached at the second attempt. One port of each version makes no local
network. -/
theorem evaluate_dialing_retried :
    let a : Address := .v4 10 0 0 1
    let probes : ProbeSettings := ⟨(1, 2), [a, a, .v4 10 0 0 2], 80, .ofMillis 250⟩
    let item : TestItem := { name := "push", path := "push.py", markers := [.needsNetwork true] }
    let refused : Except String Unit := .error "refused"
    let dial (n : Nat) (_ : Endpoint) := if n = 1 then .ok () else refused
    let only6 : SocketOutcomes :=
      ⟨fun _ e => if e.address = .unspecified6 then .ok () else refused, dial⟩
    let mixed : SocketOutcomes :=
      ⟨fun n e => if e.address = .unspecified4 ↔ n = 0 then .ok () else refused, dial⟩
    let run (o : SocketOutcomes) :=
      (((evaluate (((Command.World.machine {}).dialing o).host probes) {} item).run []).run []).1
    let bind (address : Address) (port : UInt16) := SocketAttempt.bind ⟨address, port⟩
    let tried := [bind .unspecified4 1, bind .unspecified6 1, bind .unspecified6 2,
      .connect ⟨a, 80⟩ probes.connectTimeout, .connect ⟨a, 80⟩ probes.connectTimeout]
    let tried' := [bind .unspecified4 1, bind .unspecified4 2, bind .unspecified6 1]
    run only6 = (.run, tried) ∧ only6.Decides probes true [] .run tried ∧
      run mixed = (.skip .noLocalNetwork, tried') ∧
      mixed.Decides probes true [] (.skip .noLocalNetwork) tried' := by
  intro a probes item refused dial only6 mixed run bind tried tried'
  have hdecides (o : SocketOutcomes) : o.Decides probes true [] (run o).1 (run o).2 := by
    have hnetwork : networkOf? item.markers = some true := rfl
    obtain ⟨⟨decision, attempts, events, hrun, -, hdecides⟩, -⟩ :=
      evaluate_dialing (Command.World.machine {}) o probes [] {} hnetwork
    have hvalue : run o = (decision, attempts) := congrArg (fun x => (StateT.run x []).1) hrun
    rw [hvalue]
    exact hdecides
  have hrun : run only6 = (.run, tried) := by decide +kernel
  have hrun' : run mixed = (.skip .noLocalNetwork, tried') := by decide +kernel
  have h := hdecides only6
  have h' := hdecides mixed
  rw [hrun] at h
  rw [hrun'] at h'
  exact ⟨hrun, h, hrun', h'⟩

end Gate

end TestSelection
