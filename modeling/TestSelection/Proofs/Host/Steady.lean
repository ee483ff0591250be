import TestSelection.Proofs.Gate.Outcome

/-!
# Hosts that answer alike

A host may do what it likes to its state when it is asked, such as writing a log or counting the questions.
Two hosts whose answers are the same, in whatever states they are, come to the same decision about every item
(`alike_evaluate`). So the decisions on a steady host, whose answers never change, are the outcomes that are
known from the answers alone.
-/
namespace TestSelection

variable {σ τ α β : Type}

/-- Two programs give the same value, whatever the states they start from. -/
def Alike (x : StateM σ α) (y : StateM τ α) : Prop :=
  ∀ s t, (x.run s).1 = (y.run t).1

theorem Alike.pure (a : α) : Alike (σ := σ) (τ := τ) (pure a) (pure a) :=
  fun _ _ => rfl

theorem Alike.bind {x : StateM σ α} {y : StateM τ α} {f : α → StateM σ β} {g : α → StateM τ β}
    (hx : Alike x y) (hf : ∀ a, Alike (f a) (g a)) : Alike (x >>= f) (y >>= g) := by
  intro s t
  have hl : (x >>= f).run s = (f (x.run s).1).run (x.run s).2 := rfl
  have hr : (y >>= g).run t = (g (y.run t).1).run (y.run t).2 := rfl
  rw [hl, hr, hx s t]
  exact hf _ _ _

namespace HostEnvironment

/-- Each question has the same answer on both hosts, in all their states. -/
structure Agrees (host : HostEnvironment (StateM σ)) (host' : HostEnvironment (StateM τ)) : Prop where
  effectiveUserId : Alike host.effectiveUserId host'.effectiveUserId
  which : ∀ b, Alike (host.which b) (host'.which b)
  hasLocalNetwork : Alike host.hasLocalNetwork host'.hasLocalNetwork
  hasExternalNetwork : Alike host.hasExternalNetwork host'.hasExternalNetwork

/-- The answers of a host never change, whatever it does besides. -/
def IsSteady (host : HostEnvironment (StateM σ)) (answers : HostAnswers) : Prop :=
  host.Agrees answers.recording

variable {host : HostEnvironment (StateM σ)} {host' : HostEnvironment (StateM τ)} (h : host.Agrees host')
include h

theorem Agrees.whichAny (binaries : List String) :
    Alike (host.whichAny binaries) (host'.whichAny binaries) := by
  induction binaries with
  | nil => exact .pure none
  | cons b rest ih =>
      refine (h.which b).bind fun found => ?_
      cases found with
      | some path => exact .pure (some path)
      | none => exact ih

theorem Agrees.firstMissing (binaries : List String) :
    Alike (host.firstMissing binaries) (host'.firstMissing binaries) := by
  induction binaries with
  | nil => exact .pure none
  | cons b rest ih =>
      refine (h.which b).bind fun found => ?_
      cases found with
      | some path => exact ih
      | none => exact .pure (some b)

end HostEnvironment

namespace Gate

variable {host : HostEnvironment (StateM σ)} {host' : HostEnvironment (StateM τ)}

theorem alike_rootRule (h : host.Agrees host') (markers : List Marker) :
    Alike (rootRule host markers) (rootRule host' markers) := by
  unfold rootRule
  split
  · exact h.effectiveUserId.bind fun _ => .pure _
  · exact .pure none

theorem alike_binariesRule (h : host.Agrees host') (markers : List Marker) :
    Alike (binariesRule host markers) (binariesRule host' markers) := by
  unfold binariesRule
  split
  · exact .pure none
  · exact .pure none
  · exact (h.firstMissing _).bind fun _ => .pure _
  · exact (h.whichAny _).bind fun _ => .pure _

theorem alike_networkRule (h : host.Agrees host') (markers : List Marker) :
    Alike (networkRule host markers) (networkRule host' markers) := by
  have internet : Alike (do return if ← host.hasExternalNetwork then none else some SkipReason.noInternet)
      (do return if ← host'.hasExternalNetwork then none else some SkipReason.noInternet) :=
    h.hasExternalNetwork.bind fun _ => .pure _
  unfold networkRule
  split
  · exact .pure none
  · exact internet
  · refine h.hasLocalNetwork.bind fun available => ?_
    cases available with
    | true => exact internet
    | false => exact .pure _

theorem Rule.alike_ask (h : host.Agrees host') (config : RunConfiguration) (markers : List Marker)
    (r : Rule) : Alike (r.ask host config markers) (r.ask host' config markers) := by
  cases r with
  | destructive => exact .pure _
  | expensive => exact .pure _
  | root => exact alike_rootRule h markers
  | binaries => exact alike_binariesRule h markers
  | network => exact alike_networkRule h markers

theorem alike_firstReason {ask : Rule → StateM σ (Option SkipReason)}
    {ask' : Rule → StateM τ (Option SkipReason)} (h : ∀ r, Alike (ask r) (ask' r)) (rules : List Rule) :
    Alike (firstReason (rules.map ask)) (firstReason (rules.map ask')) := by
  induction rules with
  | nil => exact .pure none
  | cons r rest ih =>
      refine (h r).bind fun reason => ?_
      cases reason with
      | some reason => exact .pure (some reason)
      | none => exact ih

/-- Hosts that answer alike decide alike. -/
theorem alike_evaluate (h : host.Agrees host') (config : RunConfiguration) (item : TestItem) :
    Alike (evaluate host config item) (evaluate host' config item) := by
  rw [evaluate_eq, evaluate_eq]
  exact (alike_firstReason (Rule.alike_ask h config item.markers) Rule.order).bind fun _ => .pure _

/-- What a steady host decides is the outcome by its answers. -/
theorem evaluate_of_isSteady {answers : HostAnswers} (h : host.IsSteady answers)
    (config : RunConfiguration) (item : TestItem) (s : σ) :
    ((evaluate host config item).run s).1 = outcome answers config item.markers :=
  (alike_evaluate h config item s []).trans (evaluate_fst answers config item [])

end Gate

end TestSelection
