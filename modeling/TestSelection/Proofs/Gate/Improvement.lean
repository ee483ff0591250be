import TestSelection.Proofs.Gate.Outcome

/-!
# Better hosts and configurations

A host that has all that another one has, asked under a configuration that turns on all that another one
turns on, decides no test worse. Among binaries that are all needed the search gets at least as far as
before (`rank_evaluate_le`).
-/
namespace TestSelection

/-- What one configuration turns on is turned on by the other one. -/
structure RunConfiguration.Within (config config' : RunConfiguration) : Prop where
  runDestructive : config.runDestructive → config'.runDestructive
  runExpensive : config.runExpensive → config'.runExpensive

/-- Merging only turns on. -/
theorem RunConfiguration.within_merge (config flags : RunConfiguration) :
    config.Within (config.merge flags) where
  runDestructive h := by simp [merge, h]
  runExpensive h := by simp [merge, h]

/-- What one host has the other one has: the same user or root, the binaries and the networks. -/
structure HostAnswers.Within (host host' : HostAnswers) : Prop where
  userId : host'.userId = some 0 ∨ host'.userId = host.userId
  which : ∀ b, (host.which b).isSome → (host'.which b).isSome
  localNetwork : host.localNetwork → host'.localNetwork
  externalNetwork : host.externalNetwork → host'.externalNetwork

namespace HostAnswers.Within

variable {host host' : HostAnswers} (h : host.Within host')
include h

theorem which_isNone {b : String} (hb : (host'.which b).isNone) : (host.which b).isNone := by
  rw [← Option.not_isSome, Bool.not_eq_true'] at hb ⊢
  cases hs : (host.which b).isSome with
  | false => rfl
  | true => exact absurd (h.which b hs) (by simp [hb])

/-- The first missing binary is not missed earlier on the better host. -/
theorem find?_isNone {binaries : List String} {b' : String}
    (hb : (binaries.find? fun b => (host'.which b).isNone) = some b') :
    ∃ b, (binaries.find? fun b => (host.which b).isNone) = some b := by
  refine Option.isSome_iff_exists.mp (List.find?_isSome.mpr ⟨b', List.mem_of_find?_eq_some hb, ?_⟩)
  exact h.which_isNone (List.find?_some (p := fun b => (host'.which b).isNone) hb)

end HostAnswers.Within

namespace Gate

open Decision

variable {host host' : HostAnswers} {config config' : RunConfiguration}

/-- A marker that still is a reason to skip was a reason that came no later. -/
theorem exists_reasonAt_of_within (hc : config.Within config') (hh : host.Within host')
    {marker : Marker} {reason : SkipReason}
    (h : reasonAt (fun _ => host') config' 0 marker = some reason) :
    ∃ before, reasonAt (fun _ => host) config 0 marker = some before ∧ before.rank ≤ reason.rank := by
  cases marker with
  | destructive =>
      simp only [reasonAt, Option.ite_none_left_eq_some, Option.some.injEq] at h
      obtain ⟨hoff, rfl⟩ := h
      exact ⟨.destructiveDisabled, if_neg fun hon => hoff (hc.runDestructive hon), Nat.le_refl _⟩
  | expensive =>
      simp only [reasonAt, Option.ite_none_left_eq_some, Option.some.injEq] at h
      obtain ⟨hoff, rfl⟩ := h
      exact ⟨.expensiveDisabled, if_neg fun hon => hoff (hc.runExpensive hon), Nat.le_refl _⟩
  | needsRoot =>
      simp only [reasonAt, Option.ite_none_left_eq_some, Option.some.injEq] at h
      obtain ⟨hroot, rfl⟩ := h
      exact ⟨.notRoot, if_neg (hh.userId.resolve_left hroot ▸ hroot), Nat.le_refl _⟩
  | needsBinaries binaries checkAll message =>
      cases checkAll with
      | true =>
          rw [reasonAt_needsAll] at h ⊢
          obtain ⟨b', hb', rfl⟩ := Option.map_eq_some_iff.mp h
          obtain ⟨b, hb⟩ := hh.find?_isNone hb'
          exact ⟨.binaryMissing message b, by rw [hb]; rfl, Nat.le_refl _⟩
      | false =>
          rw [reasonAt_needsOne, Option.ite_none_left_eq_some, not_or] at h
          obtain ⟨⟨hne, hnone⟩, hr⟩ := h
          cases hr
          refine ⟨.binariesMissing message binaries, ?_, Nat.le_refl _⟩
          rw [reasonAt_needsOne, if_neg]
          rintro (hnil | hany)
          · exact hne hnil
          · obtain ⟨b, hmem, hb⟩ := List.any_eq_true.mp hany
            exact hnone (List.any_eq_true.mpr ⟨b, hmem, hh.which b hb⟩)
  | needsNetwork onlyLocal =>
      by_cases hlocal : onlyLocal ∧ ¬host.localNetwork
      · -- the rule comes no further than to the local network
        refine ⟨.noLocalNetwork, if_pos hlocal, ?_⟩
        simp only [reasonAt] at h
        split at h
        · cases h
          exact Nat.le_refl _
        · rw [Option.ite_none_left_eq_some] at h
          cases h.2
          exact Nat.le_succ _
      · have hlocal' : ¬(onlyLocal ∧ ¬host'.localNetwork) := fun hl =>
          hlocal ⟨hl.1, fun hn => hl.2 (hh.localNetwork hn)⟩
        simp only [reasonAt, if_neg hlocal', Option.ite_none_left_eq_some, Option.some.injEq] at h
        obtain ⟨hno, rfl⟩ := h
        refine ⟨.noInternet, ?_, Nat.le_refl _⟩
        simp only [reasonAt, if_neg hlocal]
        exact if_neg fun hn => hno (hh.externalNetwork hn)
  | unregistered name => cases h

theorem rank_outcome_le_of_within (hc : config.Within config') (hh : host.Within host')
    (markers : List Marker) :
    (outcome host config markers).rank ≤ (outcome host' config' markers).rank := by
  refine rank_outcome_le fun r => rank_ofReason?_le fun reason hr => ?_
  obtain ⟨marker, hm, hreason⟩ := Option.bind_eq_some_iff.mp hr
  obtain ⟨before, hbefore, hle⟩ := exists_reasonAt_of_within hc hh hreason
  exact ⟨before, Option.bind_eq_some_iff.mpr ⟨marker, hm, hbefore⟩, hle⟩

/-! ## The binary that is named -/

theorem needsAll_of_outcome {markers : List Marker} {lead : Option String} {b : String}
    (h : outcome host config markers = .skip (.binaryMissing lead b)) :
    ∃ binaries, Rule.binaries.first? markers = some (.needsBinaries binaries true lead) ∧
      (binaries.find? fun b => (host.which b).isNone) = some b := by
  obtain ⟨marker, hm, hr⟩ := exists_of_outcome_eq_skip h
  cases marker with
  | destructive | expensive | needsRoot | needsNetwork onlyLocal | unregistered name =>
      cases Rule.of_first? hm
  | needsBinaries binaries checkAll message =>
      cases checkAll with
      | true =>
          rw [reasonAt_needsAll] at hr
          obtain ⟨b', hb, he⟩ := Option.map_eq_some_iff.mp hr
          cases he
          exact ⟨binaries, hm, hb⟩
      | false =>
          rw [reasonAt_needsOne, Option.ite_none_left_eq_some] at hr
          cases hr.2

/-- The place of a value that is found is the first one that passes the test. -/
theorem idxOf_of_find? {p : String → Bool} {l : List String} {b : String} (h : l.find? p = some b) :
    l.idxOf b = l.findIdx p := by
  induction l with
  | nil => cases h
  | cons c rest ih =>
      rw [List.find?_cons] at h
      rw [List.idxOf_cons, List.findIdx_cons]
      cases hc : p c with
      | true =>
          rw [hc] at h
          cases h
          simp
      | false =>
          rw [hc] at h
          have hne : c ≠ b := by
            rintro rfl
            exact absurd (List.find?_some h) (by simp [hc])
          rw [ih h, beq_false_of_ne hne]

/-- A host that has what another one has, under a configuration that turns on what another one turns on:
no outcome gets worse, a test that ran still runs, and of binaries that are all needed the one that is
named stands where the one named before stood or behind it. -/
theorem rank_evaluate_le (hc : config.Within config') (hh : host.Within host') (item : TestItem)
    (calls calls' : List HostCall) :
    let before := ((evaluate host.recording config item).run calls).1
    let after := ((evaluate host'.recording config' item).run calls').1
    before.rank ≤ after.rank ∧
    (before = .run → after = .run) ∧
    ∀ lead lead' b b', before = .skip (.binaryMissing lead b) →
      after = .skip (.binaryMissing lead' b') →
      ∃ binaries message,
        Rule.binaries.first? item.markers = some (.needsBinaries binaries true message) ∧
        lead = message ∧ lead' = message ∧ b ∈ binaries ∧ b' ∈ binaries ∧
        binaries.idxOf b ≤ binaries.idxOf b' := by
  intro before after
  have hbefore : before = outcome host config item.markers := evaluate_fst host config item calls
  have hafter : after = outcome host' config' item.markers := evaluate_fst host' config' item calls'
  have hrank := rank_outcome_le_of_within hc hh item.markers
  rw [← hbefore, ← hafter] at hrank
  refine ⟨hrank, fun hrun => eq_run_of_le (hrun ▸ hrank), fun lead lead' b b' hb hb' => ?_⟩
  obtain ⟨binaries, hm, hfind⟩ := needsAll_of_outcome (hbefore.symm.trans hb)
  obtain ⟨binaries', hm', hfind'⟩ := needsAll_of_outcome (hafter.symm.trans hb')
  rw [hm] at hm'
  cases hm'
  refine ⟨binaries, lead, hm, rfl, rfl, List.mem_of_find?_eq_some hfind,
    List.mem_of_find?_eq_some hfind', ?_⟩
  rw [idxOf_of_find? hfind, idxOf_of_find? hfind']
  exact List.findIdx_le_findIdx fun b _ hnone => hh.which_isNone hnone

/-- Under the merged configuration the host misses the last binary, and the one with less the second. -/
theorem rank_evaluate_le_tools :
    let config : RunConfiguration := {}
    let flags : RunConfiguration := { runDestructive := true }
    let having (binaries : List String) : HostAnswers :=
      ⟨none, fun b => if b ∈ binaries then some ("/bin/" ++ b) else none, false, true⟩
    let binaries := ["git", "make", "git", "svn"]
    let item : TestItem :=
      { name := "push", path := "tests/push.py"
        markers := [.needsNetwork true, .needsBinaries binaries true (some "tools")] }
    let decision (host : HostAnswers) (config : RunConfiguration) :=
      ((evaluate host.recording config item).run []).1
    let before := decision (having ["git"]) config
    let after := decision (having ["make", "git"]) (config.merge flags)
    config.Within (config.merge flags) ∧ (having ["git"]).Within (having ["make", "git"]) ∧
      before = .skip (.binaryMissing (some "tools") "make") ∧
      after = .skip (.binaryMissing (some "tools") "svn") ∧
      before.rank ≤ after.rank ∧ binaries.idxOf "make" ≤ binaries.idxOf "svn" := by
  intro config flags having binaries item decision before after
  have hc : config.Within (config.merge flags) := config.within_merge flags
  have hh : (having ["git"]).Within (having ["make", "git"]) := by
    refine ⟨.inr rfl, fun b hb => ?_, id, id⟩
    by_cases hgit : b = "git"
    · subst hgit
      rfl
    · simp [having, hgit] at hb
  obtain ⟨hrank, -, hplace⟩ := rank_evaluate_le hc hh item [] []
  obtain ⟨_, _, hm, -, -, -, -, hle⟩ := hplace (some "tools") (some "tools") "make" "svn" rfl rfl
  cases hm
  exact ⟨hc, hh, rfl, rfl, hrank, hle⟩

end Gate

end TestSelection
