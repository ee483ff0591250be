import TestSelection.Proofs.Gate.Question

/-!
# Outcomes in their order

On a host with fixed answers each rule has a reason to skip or none, whenever it is asked, and the first
reason is the outcome. Outcomes are ranked by what decided them, and a run is the best one. Where no rule
does worse on one side than on the other, neither does the outcome (`rank_findSome?_le`).
-/
namespace TestSelection

namespace SkipReason

open Gate

/-- The rule that skips for a reason. -/
def rule : SkipReason → Rule
  | destructiveDisabled => .destructive
  | expensiveDisabled => .expensive
  | notRoot => .root
  | binaryMissing .. | binariesMissing .. => .binaries
  | noLocalNetwork | noInternet => .network

/-- The reasons in the order of their rules; a missing local network comes before the internet. -/
def rank : SkipReason → Nat
  | destructiveDisabled => 0
  | expensiveDisabled => 1
  | notRoot => 2
  | binaryMissing .. | binariesMissing .. => 3
  | noLocalNetwork => 4
  | noInternet => 5

/-- A rule that is asked earlier gives the reasons of lower rank. -/
theorem rank_lt_of_rule_lt {a b : SkipReason}
    (h : Rule.order.idxOf a.rule < Rule.order.idxOf b.rule) : a.rank < b.rank := by
  cases a <;> cases b <;> simp only [rule, rank] at h ⊢ <;> revert h <;> decide

end SkipReason

namespace Decision

/-- The outcomes by what decided them, the better the higher. -/
def rank : Decision → Nat
  | skip reason => reason.rank
  | run => 6

theorem rank_skip_lt (reason : SkipReason) : (skip reason).rank < run.rank := by
  cases reason <;> simp [rank, SkipReason.rank]

theorem rank_le_run (d : Decision) : d.rank ≤ run.rank := by
  cases d with
  | run => exact Nat.le_refl _
  | skip reason => exact Nat.le_of_lt (rank_skip_lt reason)

theorem eq_run_of_le {d : Decision} (h : run.rank ≤ d.rank) : d = run := by
  cases d with
  | run => rfl
  | skip reason => exact absurd (rank_skip_lt reason) (Nat.not_lt.mpr h)

/-- Nothing gets worse where each reason that is left was preceded by one of no higher rank. -/
theorem rank_ofReason?_le {x y : Option SkipReason}
    (h : ∀ reason, y = some reason → ∃ before, x = some before ∧ before.rank ≤ reason.rank) :
    (ofReason? x).rank ≤ (ofReason? y).rank := by
  cases y with
  | none => exact rank_le_run _
  | some reason =>
      obtain ⟨before, rfl, hle⟩ := h reason rfl
      exact hle

theorem ofReason?_eq_skip_iff {x : Option SkipReason} {reason : SkipReason} :
    ofReason? x = skip reason ↔ x = some reason := by
  cases x <;> simp [ofReason?]

end Decision

namespace Gate

/-! ## The first reason of some rules -/

/-- Rules that are asked one after another, each with reasons of its own: when none of them does worse
on the left than on the right, the first reason does not either. -/
theorem rank_findSome?_le {f g : Rule → Option SkipReason} {rules : List Rule}
    (hrules : rules.Pairwise fun r r' => Rule.order.idxOf r < Rule.order.idxOf r')
    (hf : ∀ r reason, f r = some reason → reason.rule = r)
    (hg : ∀ r reason, g r = some reason → reason.rule = r)
    (h : ∀ r, (Decision.ofReason? (f r)).rank ≤ (Decision.ofReason? (g r)).rank) :
    (Decision.ofReason? (rules.findSome? f)).rank ≤ (Decision.ofReason? (rules.findSome? g)).rank := by
  induction rules with
  | nil => exact Nat.le_refl _
  | cons r rest ih =>
      obtain ⟨hfirst, hrest⟩ := List.pairwise_cons.mp hrules
      have hr := h r
      rw [List.findSome?_cons, List.findSome?_cons]
      cases hfr : f r with
      | none =>
          rw [hfr] at hr
          have hgr : g r = none := by
            cases hgr : g r with
            | none => rfl
            | some reason =>
                rw [hgr] at hr
                exact absurd (Decision.rank_skip_lt reason) (Nat.not_lt.mpr hr)
          rw [hgr]
          exact ih hrest
      | some reason =>
          cases hgr : g r with
          | some reason' =>
              rw [hfr, hgr] at hr
              exact hr
          | none =>
              -- a reason on the right comes from a later rule
              refine Decision.rank_ofReason?_le fun reason' hs => ⟨reason, rfl, ?_⟩
              obtain ⟨r', hmem, hr'⟩ := List.exists_of_findSome?_eq_some hs
              have hlt := hfirst r' hmem
              rw [← hf r reason hfr, ← hg r' reason' hr'] at hlt
              exact Nat.le_of_lt (SkipReason.rank_lt_of_rule_lt hlt)

/-! ## Hosts with fixed answers -/

variable (host : HostAnswers) (config : RunConfiguration)

theorem reasonAt_needsAll (n : Nat) (binaries : List String) (message : Option String) :
    reasonAt (fun _ => host) config n (.needsBinaries binaries true message) =
      (binaries.find? fun b => (host.which b).isNone).map (.binaryMissing message) := by
  have h : ((binaries.zipIdx n).find? (endsSearch (fun _ => host) true)).map Prod.fst =
      binaries.find? fun b => (host.which b).isNone := by
    induction binaries generalizing n with
    | nil => rfl
    | cons b rest ih =>
        rw [List.zipIdx_cons, List.find?_cons, List.find?_cons]
        cases hb : host.which b with
        | none => simp [endsSearch, hb]
        | some path => simpa [endsSearch, hb] using ih (n + 1)
  rw [← h, Option.map_map]
  rfl

theorem reasonAt_needsOne (n : Nat) (binaries : List String) (message : Option String) :
    reasonAt (fun _ => host) config n (.needsBinaries binaries false message) =
      if binaries = [] ∨ binaries.any fun b => (host.which b).isSome then none
      else some (.binariesMissing message binaries) := by
  have h : (binaries.zipIdx n).any (endsSearch (fun _ => host) false) =
      binaries.any fun b => (host.which b).isSome := by
    induction binaries generalizing n with
    | nil => rfl
    | cons b rest ih =>
        rw [List.zipIdx_cons, List.any_cons, List.any_cons, ih (n + 1)]
        cases hb : host.which b <;> simp [endsSearch, hb]
  rw [← h]
  rfl

/-- It does not matter when a marker is looked at. -/
theorem reasonAt_fixed (n : Nat) (marker : Marker) :
    reasonAt (fun _ => host) config n marker = reasonAt (fun _ => host) config 0 marker := by
  cases marker with
  | destructive | expensive | needsRoot | needsNetwork onlyLocal | unregistered name => rfl
  | needsBinaries binaries checkAll message =>
      cases checkAll with
      | true => rw [reasonAt_needsAll, reasonAt_needsAll]
      | false => rw [reasonAt_needsOne, reasonAt_needsOne]

theorem questionsAt_fixed (n : Nat) (marker : Marker) :
    questionsAt (fun _ => host) n marker = questionsAt (fun _ => host) 0 marker := by
  cases marker with
  | destructive | expensive | needsRoot | needsNetwork onlyLocal | unregistered name => rfl
  | needsBinaries binaries checkAll message => exact searchCalls_fixed n host checkAll binaries

theorem rule_of_reasonAt {n : Nat} {marker : Marker} {reason : SkipReason}
    (h : reasonAt (fun _ => host) config n marker = some reason) :
    Rule.of? marker = some reason.rule := by
  cases marker with
  | destructive | expensive | needsRoot =>
      simp only [reasonAt, Option.ite_none_left_eq_some, Option.some.injEq] at h
      rw [← h.2]
      rfl
  | needsBinaries binaries checkAll message =>
      cases checkAll with
      | true =>
          obtain ⟨b, -, rfl⟩ := Option.map_eq_some_iff.mp h
          rfl
      | false =>
          simp only [reasonAt, Option.ite_none_left_eq_some, Option.some.injEq] at h
          rw [← h.2]
          rfl
  | needsNetwork onlyLocal =>
      simp only [reasonAt] at h
      split at h
      · cases h
        rfl
      · rw [Option.ite_none_left_eq_some] at h
        cases h.2
        rfl
  | unregistered name => cases h

variable (markers : List Marker)

/-- The reason that a rule has about the markers of an item. -/
def Rule.reason? (r : Rule) : Option SkipReason :=
  (r.first? markers).bind (Gate.reasonAt (fun _ => host) config 0)

theorem Rule.rule_of_reason? {r : Rule} {reason : SkipReason}
    (h : r.reason? host config markers = some reason) : reason.rule = r := by
  obtain ⟨marker, hm, hr⟩ := Option.bind_eq_some_iff.mp h
  have hrule := rule_of_reasonAt host config hr
  rw [of_first? hm] at hrule
  exact (Option.some.inj hrule).symm

/-- What is decided about an item with some markers. -/
def outcome : Decision :=
  .ofReason? (Rule.order.findSome? (Rule.reason? host config markers))

theorem Rule.reasonAt_fixed (n : Nat) (r : Rule) :
    r.reasonAt (fun _ => host) config markers n = r.reason? host config markers :=
  congrArg (r.first? markers).bind (funext (Gate.reasonAt_fixed host config n))

theorem Rule.questionsAt_fixed (n : Nat) (r : Rule) :
    r.questionsAt (fun _ => host) markers n = r.questionsAt (fun _ => host) markers 0 :=
  congrArg ((r.first? markers).elim []) (funext (Gate.questionsAt_fixed host n))

theorem reasonOf_fixed (n : Nat) (rules : List Rule) :
    reasonOf (fun _ => host) config markers n rules =
      rules.findSome? (Rule.reason? host config markers) := by
  induction rules generalizing n with
  | nil => rfl
  | cons r rest ih =>
      rw [reasonOf, ih, Rule.reasonAt_fixed, List.findSome?_cons]
      cases r.reason? host config markers <;> rfl

theorem callsOf_fixed (n : Nat) (rules : List Rule) :
    callsOf (fun _ => host) config markers n rules =
      callsOf (fun _ => host) config markers 0 rules := by
  induction rules generalizing n with
  | nil => rfl
  | cons r rest ih =>
      rw [callsOf, callsOf, ih (n + _), ih (0 + _), Rule.questionsAt_fixed, Rule.reasonAt_fixed,
        Rule.reasonAt_fixed]

/-- It does not matter what a host with fixed answers was asked before. -/
theorem givesAt_evaluate_fixed (n : Nat) (item : TestItem) :
    GivesAt n (evaluate host.recording config item) (outcome host config item.markers)
      (callsOf (fun _ => host) config item.markers 0 Rule.order) := by
  have h := givesAt_evaluate (n := n) (fun _ => host) config item
  rwa [reasonOf_fixed, callsOf_fixed, ← HostAnswers.recording_eq_changing] at h

theorem evaluate_fst (item : TestItem) (calls : List HostCall) :
    ((evaluate host.recording config item).run calls).1 = outcome host config item.markers :=
  congrArg Prod.fst (givesAt_evaluate_fixed host config calls.length item calls rfl)

variable {host config markers}

theorem exists_of_outcome_eq_skip {reason : SkipReason}
    (h : outcome host config markers = .skip reason) :
    ∃ marker, reason.rule.first? markers = some marker ∧
      reasonAt (fun _ => host) config 0 marker = some reason := by
  obtain ⟨r, -, hr⟩ := List.exists_of_findSome?_eq_some (Decision.ofReason?_eq_skip_iff.mp h)
  rw [Rule.rule_of_reason? host config markers hr]
  exact Option.bind_eq_some_iff.mp hr

/-- Outcomes are compared rule by rule. -/
theorem rank_outcome_le {host' : HostAnswers} {config' : RunConfiguration} {markers' : List Marker}
    (h : ∀ r : Rule, (Decision.ofReason? (r.reason? host config markers)).rank ≤
      (Decision.ofReason? (r.reason? host' config' markers')).rank) :
    (outcome host config markers).rank ≤ (outcome host' config' markers').rank :=
  rank_findSome?_le (by decide) (fun _ _ => Rule.rule_of_reason? host config markers)
    (fun _ _ => Rule.rule_of_reason? host' config' markers') h

end Gate

end TestSelection
