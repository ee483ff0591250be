import TestSelection.Probe

/-!
# Attempts on sockets

A socket may fail at one attempt and do well at the next, so the outcome of each attempt is free, also of one
that is made a second time. The attempts are recorded. A run of a probe then shows what it gives, what it
tried and in which order, and that it does nothing else but log (`tries_localNetwork`,
`tries_externalNetwork`).
-/
namespace TestSelection

/-- An attempt on a socket. -/
inductive SocketAttempt
  | bind (e : Endpoint)
  | connect (e : Endpoint) (timeout : Duration)
  deriving DecidableEq

namespace SocketAttempt

def isBindOn (address : Address) : SocketAttempt → Bool
  | bind e => e.address = address
  | connect .. => false

def isConnect : SocketAttempt → Bool
  | bind _ => false
  | connect .. => true

/-- How many of some attempts are binds on an address. -/
def bindsOn (address : Address) (record : List SocketAttempt) : Nat :=
  record.countP (isBindOn address)

/-- How many of some attempts are connections. -/
def connects (record : List SocketAttempt) : Nat :=
  record.countP isConnect

@[simp] theorem bindsOn_append (address : Address) (record more : List SocketAttempt) :
    bindsOn address (record ++ more) = bindsOn address record + bindsOn address more :=
  List.countP_append

@[simp] theorem connects_append (record more : List SocketAttempt) :
    connects (record ++ more) = connects record + connects more :=
  List.countP_append

end SocketAttempt

open SocketAttempt

/-- What comes of each attempt. A bind is told by the number of the binds on its address before it, a
connection by the number of the connections before it. -/
structure SocketOutcomes where
  bind : Nat → Endpoint → Except String Unit
  connect : Nat → Endpoint → Except String Unit

namespace SocketOutcomes

variable (o : SocketOutcomes)

/-- What comes of an attempt behind others. -/
def of (record : List SocketAttempt) : SocketAttempt → Except String Unit
  | .bind e => o.bind (bindsOn e.address record) e
  | .connect e _ => o.connect (connects record) e

variable {m : Type → Type} [Monad m]

/-- Makes an attempt and adds it to the record. -/
def attempt (a : SocketAttempt) : StateT (List SocketAttempt) m (Except String Unit) := do
  let record ← get
  set (record ++ [a])
  return o.of record a

/-- The sockets whose attempts come out in that way. -/
def sockets : Sockets (StateT (List SocketAttempt) m) where
  bind e := o.attempt (.bind e)
  connect e timeout := o.attempt (.connect e timeout)

end SocketOutcomes

/-! ## Programs that make attempts -/

section Tries

variable {m : Type → Type} [Monad m] {log : LogEvent → m Unit} {α β : Type}

/-- Behind a record a program gives a value and adds some attempts, and all else that it does is to log. -/
def Tries (log : LogEvent → m Unit) (x : StateT (List SocketAttempt) m α) (record : List SocketAttempt)
    (a : α) (tried : List SocketAttempt) : Prop :=
  ∃ events : Log, x.run record = do
    events.forM log
    return (a, record ++ tried)

variable [LawfulMonad m] {x : StateT (List SocketAttempt) m α} {record tried : List SocketAttempt}

theorem Tries.pure (a : α) : Tries log (Pure.pure a) record a [] :=
  ⟨[], by simp⟩

theorem Tries.bind {f : α → StateT (List SocketAttempt) m β} {a : α} {b : β}
    {more : List SocketAttempt} (hx : Tries log x record a tried)
    (hf : Tries log (f a) (record ++ tried) b more) : Tries log (x >>= f) record b (tried ++ more) := by
  obtain ⟨events, hx⟩ := hx
  obtain ⟨events', hf⟩ := hf
  refine ⟨events ++ events', ?_⟩
  rw [List.forM_eq_forM] at hx hf ⊢
  rw [StateT.run_bind, hx, bind_assoc, List.forM_append, bind_assoc]
  simp only [pure_bind, hf, List.append_assoc]

theorem Tries.bind_quiet {f : α → StateT (List SocketAttempt) m β} {a : α} {b : β}
    (hx : Tries log x record a tried) (hf : ∀ record, Tries log (f a) record b []) :
    Tries log (x >>= f) record b tried := by
  rw [← List.append_nil tried]
  exact hx.bind (hf _)

theorem Tries.logged {f : Unit → StateT (List SocketAttempt) m β} {b : β} (e : LogEvent)
    (hf : Tries log (f ()) record b tried) :
    Tries log ((liftM (log e) : StateT (List SocketAttempt) m Unit) >>= f) record b tried := by
  have hlog : Tries log (liftM (log e) : StateT (List SocketAttempt) m Unit) record () [] :=
    ⟨[e], by simp⟩
  rw [← List.append_nil record] at hf
  exact hlog.bind hf

theorem tries_attempt (o : SocketOutcomes) (a : SocketAttempt) :
    Tries log (o.attempt a) record (o.of record a) [a] :=
  ⟨[], by simp [SocketOutcomes.attempt]⟩

end Tries

/-! ## Two ports of an address -/

namespace SocketOutcomes

variable (o : SocketOutcomes) (record : List SocketAttempt)

/-- Whether two ports can be bound on an address. -/
def bindsPair (address : Address) (ports : UInt16 × UInt16) : Bool :=
  (o.bind (bindsOn address record) ⟨address, ports.1⟩).isOk &&
    (o.bind (bindsOn address record + 1) ⟨address, ports.2⟩).isOk

/-- What is tried to bind two ports: the second is tried only behind a success. -/
def pairAttempts (address : Address) (ports : UInt16 × UInt16) : List SocketAttempt :=
  .bind ⟨address, ports.1⟩ ::
    if (o.bind (bindsOn address record) ⟨address, ports.1⟩).isOk then [.bind ⟨address, ports.2⟩]
    else []

theorem pair_congr {address : Address} {record record' : List SocketAttempt}
    (h : bindsOn address record = bindsOn address record') (ports : UInt16 × UInt16) :
    o.bindsPair record address ports = o.bindsPair record' address ports ∧
      o.pairAttempts record address ports = o.pairAttempts record' address ports := by
  rw [bindsPair, bindsPair, pairAttempts, pairAttempts, h]
  exact ⟨rfl, rfl⟩

variable {m : Type → Type} [Monad m] [LawfulMonad m] (log : LogEvent → m Unit)

theorem tries_bindPair (address : Address) (ports : UInt16 × UInt16) :
    Tries log (Probe.bindPair o.sockets (fun e => liftM (log e)) address ports) record
      (o.bindsPair record address ports) (o.pairAttempts record address ports) := by
  have hfirst : Tries log (o.sockets.bind ⟨address, ports.1⟩) record
      (o.bind (bindsOn address record) ⟨address, ports.1⟩) [.bind ⟨address, ports.1⟩] :=
    tries_attempt o _
  have hsecond : Tries log (o.sockets.bind ⟨address, ports.2⟩)
      (record ++ [.bind ⟨address, ports.1⟩])
      (o.bind (bindsOn address record + 1) ⟨address, ports.2⟩) [.bind ⟨address, ports.2⟩] := by
    have hcount : bindsOn address (record ++ [.bind ⟨address, ports.1⟩]) =
        bindsOn address record + 1 := by
      simp [bindsOn, isBindOn]
    rw [← hcount]
    exact tries_attempt o _
  unfold Probe.bindPair bindsPair pairAttempts
  cases h : o.bind (bindsOn address record) ⟨address, ports.1⟩ with
  | error e =>
      rw [h] at hfirst
      refine hfirst.bind_quiet fun _ => ?_
      dsimp only
      rw [pure_bind]
      exact .logged _ (.pure false)
  | ok _ =>
      rw [h] at hfirst
      refine hfirst.bind (?_ : Tries log _ _ _ [.bind ⟨address, ports.2⟩])
      refine hsecond.bind_quiet fun _ => ?_
      cases o.bind (bindsOn address record + 1) ⟨address, ports.2⟩ with
      | error e => exact .logged _ (.pure false)
      | ok _ => exact .pure true

/-! ## The local network -/

/-- Whether two ports can be bound, both on every interface of version 4 or both on every interface of
version 6. -/
def bindsLocal (probes : ProbeSettings) : Bool :=
  o.bindsPair record .unspecified4 probes.localPorts ||
    o.bindsPair record .unspecified6 probes.localPorts

/-- What is tried to find a local network: version 6 only where version 4 failed. -/
def localAttempts (probes : ProbeSettings) : List SocketAttempt :=
  o.pairAttempts record .unspecified4 probes.localPorts ++
    if o.bindsPair record .unspecified4 probes.localPorts then []
    else o.pairAttempts record .unspecified6 probes.localPorts

theorem bindsOn_pairAttempts {address address' : Address} (h : address ≠ address')
    (ports : UInt16 × UInt16) : bindsOn address' (o.pairAttempts record address ports) = 0 := by
  unfold pairAttempts
  split <;> simp [bindsOn, isBindOn, h]

@[simp] theorem connects_pairAttempts (address : Address) (ports : UInt16 × UInt16) :
    connects (o.pairAttempts record address ports) = 0 := by
  unfold pairAttempts
  split <;> rfl

theorem connects_localAttempts (probes : ProbeSettings) :
    connects (o.localAttempts record probes) = 0 := by
  unfold localAttempts
  split
  · rw [List.append_nil, connects_pairAttempts]
  · rw [connects_append, connects_pairAttempts, connects_pairAttempts]

theorem tries_localNetwork (probes : ProbeSettings) :
    Tries log (Probe.localNetwork o.sockets (fun e => liftM (log e)) probes) record
      (o.bindsLocal record probes) (o.localAttempts record probes) := by
  have h6 : Tries log
      (Probe.bindPair o.sockets (fun e => liftM (log e)) .unspecified6 probes.localPorts)
      (record ++ o.pairAttempts record .unspecified4 probes.localPorts)
      (o.bindsPair record .unspecified6 probes.localPorts)
      (o.pairAttempts record .unspecified6 probes.localPorts) := by
    -- The binds of version 4 do not count among those of version 6.
    have hcount : bindsOn .unspecified6 (record ++ o.pairAttempts record .unspecified4
        probes.localPorts) = bindsOn .unspecified6 record := by
      rw [bindsOn_append, bindsOn_pairAttempts o record (by decide), Nat.add_zero]
    obtain ⟨hbinds, hattempts⟩ := o.pair_congr hcount probes.localPorts
    rw [← hbinds, ← hattempts]
    exact o.tries_bindPair _ log .unspecified6 probes.localPorts
  unfold Probe.localNetwork bindsLocal localAttempts
  refine (o.tries_bindPair record log .unspecified4 probes.localPorts).bind ?_
  cases o.bindsPair record .unspecified4 probes.localPorts with
  | true =>
      dsimp only
      rw [if_pos rfl, if_pos rfl, pure_bind]
      exact .logged _ (.pure true)
  | false => exact h6.bind_quiet fun _ => .logged _ (.pure _)

end SocketOutcomes

/-! ## The internet -/

/-- What the external probe tries to reach. -/
def ProbeSettings.endpoints (probes : ProbeSettings) : List Endpoint :=
  probes.externalAddresses.map fun a => ⟨a, probes.externalPort⟩

namespace SocketOutcomes

variable (o : SocketOutcomes) (record : List SocketAttempt)

/-- No endpoint accepts a connection, the first of them being tried behind `n` others. -/
def AllRefuse (n : Nat) (endpoints : List Endpoint) : Prop :=
  ∀ i e, endpoints[i]? = some e → (o.connect (n + i) e).isOk = false

/-- The first of some endpoints that accepts a connection, and what was tried: the endpoints up to it, each
once and in their order, or all of them when none accepts. -/
inductive FirstReached (timeout : Duration) (n : Nat) (endpoints : List Endpoint) :
    Option Endpoint → List SocketAttempt → Prop
  | found {front back : List Endpoint} {e : Endpoint} : endpoints = front ++ e :: back →
      o.AllRefuse n front → (o.connect (n + front.length) e).isOk = true →
      FirstReached timeout n endpoints (some e) ((front ++ [e]).map (.connect · timeout))
  | missed : o.AllRefuse n endpoints →
      FirstReached timeout n endpoints none (endpoints.map (.connect · timeout))

variable {o record} {timeout : Duration} {n : Nat} {e : Endpoint} {rest endpoints : List Endpoint}
  {reached : Option Endpoint} {tried : List SocketAttempt}

theorem AllRefuse.cons (h : (o.connect n e).isOk = false) (hrest : o.AllRefuse (n + 1) rest) :
    o.AllRefuse n (e :: rest) := by
  intro i e' he
  cases i with
  | zero =>
      cases he
      exact h
  | succ i =>
      rw [Nat.add_comm i 1, ← Nat.add_assoc]
      exact hrest i e' he

theorem FirstReached.cons (h : (o.connect n e).isOk = false)
    (hrest : o.FirstReached timeout (n + 1) rest reached tried) :
    o.FirstReached timeout n (e :: rest) reached (.connect e timeout :: tried) := by
  cases hrest with
  | @found front back e' hsplit hfront hok =>
      have hlast : (o.connect (n + (e :: front).length) e').isOk = true := by
        rwa [List.length_cons, ← Nat.add_assoc, Nat.add_right_comm]
      exact .found (congrArg (e :: ·) hsplit) (hfront.cons h) hlast
  | missed hall => exact .missed (hall.cons h)

theorem FirstReached.isSome_iff (h : o.FirstReached timeout n endpoints reached tried) :
    reached.isSome = true ↔ ∃ i e, endpoints[i]? = some e ∧ (o.connect (n + i) e).isOk = true := by
  cases h with
  | @found front back e' hsplit _ hok =>
      refine iff_of_true rfl ⟨front.length, e', ?_, hok⟩
      rw [hsplit, List.getElem?_append_right (Nat.le_refl _), Nat.sub_self]
      rfl
  | missed hall =>
      refine iff_of_false nofun ?_
      rintro ⟨i, e', he, hok⟩
      rw [hall i e' he] at hok
      cases hok

variable {m : Type → Type} [Monad m] [LawfulMonad m]
variable (o record timeout) (log : LogEvent → m Unit)

theorem tries_firstReachable (endpoints : List Endpoint) : ∃ reached tried,
    o.FirstReached timeout (connects record) endpoints reached tried ∧
      Tries log (Probe.firstReachable o.sockets (fun e => liftM (log e)) timeout endpoints) record
        reached tried := by
  -- The record is any record, since behind a failure it has one connection more.
  induction endpoints generalizing record with
  | nil => exact ⟨none, [], .missed nofun, .pure none⟩
  | cons e rest ih =>
      have hdial : Tries log (o.sockets.connect e timeout) record (o.connect (connects record) e)
          [.connect e timeout] := tries_attempt o _
      unfold Probe.firstReachable
      cases h : o.connect (connects record) e with
      | ok _ =>
          rw [h] at hdial
          have hok : (o.connect (connects record + 0) e).isOk = true := by
            rw [Nat.add_zero, h]
            rfl
          exact ⟨some e, _, .found (List.nil_append _).symm nofun hok,
            hdial.bind_quiet fun _ => .logged _ (.pure (some e))⟩
      | error cause =>
          rw [h] at hdial
          obtain ⟨reached, tried, hreached, htries⟩ := ih (record ++ [.connect e timeout])
          have hfail : (o.connect (connects record) e).isOk = false := by
            rw [h]
            rfl
          rw [connects_append] at hreached
          exact ⟨reached, _, hreached.cons hfail, hdial.bind (.logged _ htries)⟩

theorem tries_externalNetwork (probes : ProbeSettings) : ∃ reached tried,
    o.FirstReached probes.connectTimeout (connects record) probes.endpoints reached tried ∧
      Tries log (Probe.externalNetwork o.sockets (fun e => liftM (log e)) probes) record
        reached tried := by
  obtain ⟨reached, tried, hreached, htries⟩ :=
    o.tries_firstReachable record probes.connectTimeout log probes.endpoints
  refine ⟨reached, tried, hreached, htries.bind_quiet fun _ => ?_⟩
  cases reached with
  | none => exact .logged _ (.pure none)
  | some e => exact .pure (some e)

end SocketOutcomes

end TestSelection
