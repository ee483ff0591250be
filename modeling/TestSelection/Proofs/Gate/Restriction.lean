import TestSelection.Proofs.Gate.Outcome

/-!
# One more marker

Attaching a marker is never a gain. A name outside the vocabulary and a second marker of a kind change
nothing at all. The first marker of its kind leaves the outcome or brings a skip of its own, whichever is
worse (`evaluate_addMarker`).
-/
namespace TestSelection.Gate

namespace Rule

theorem first?_append (r : Rule) (front back : List Marker) :
    r.first? (front ++ back) = (r.first? front).or (r.first? back) :=
  List.find?_append

theorem first?_singleton_of_ne {r : Rule} {marker : Marker} (h : of? marker ≠ some r) :
    r.first? [marker] = none := by
  simp [first?, h]

/-- A marker that no rule looks at, or that stands behind one of its kind, is never the first one. -/
theorem first?_append_of_idle {markers : List Marker} {marker : Marker}
    (h : marker.isRegistered = false ∨ ∃ earlier ∈ markers, of? earlier = of? marker) (r : Rule) :
    r.first? (markers ++ [marker]) = r.first? markers := by
  rcases h with h | h
  · have hne : of? marker ≠ some r := by simp [of?_eq_none_iff.mpr h]
    rw [first?_append, first?_singleton_of_ne hne, Option.or_none]
  · rw [first?_append_cons h, List.append_nil]

/-- The first marker of its kind has its rule for itself. -/
theorem first?_eq_none_or_of_fresh {markers : List Marker} {marker : Marker}
    (h : ∀ earlier ∈ markers, of? earlier ≠ of? marker) (r : Rule) :
    r.first? markers = none ∨ r.first? [marker] = none := by
  by_cases hr : of? marker = some r
  · left
    refine List.find?_eq_none.mpr fun earlier hmem => ?_
    simpa [← hr] using h earlier hmem
  · exact .inr (first?_singleton_of_ne hr)

end Rule

/-! ## Outcomes of lists put together -/

/-- The first reason is also the first one where some of the other rules have none. -/
theorem findSome?_eq_some_of_le {f g : Rule → Option SkipReason} {rules : List Rule}
    {reason : SkipReason} (h : rules.findSome? f = some reason) (hle : ∀ r, g r = none ∨ g r = f r)
    (hr : ∀ r, f r = some reason → g r = some reason) : rules.findSome? g = some reason := by
  obtain ⟨front, r, back, rfl, hfr, hfront⟩ := List.findSome?_eq_some_iff.mp h
  refine List.findSome?_eq_some_iff.mpr ⟨front, r, back, rfl, hr r hfr, fun r' hmem => ?_⟩
  rcases hle r' with hg | hg
  · exact hg
  · rw [hg, hfront r' hmem]

variable {host : HostAnswers} {config : RunConfiguration} {front back : List Marker} {r : Rule}

theorem reason?_append_of_first? (h : r.first? front ≠ none) :
    r.reason? host config (front ++ back) = r.reason? host config front := by
  rw [Rule.reason?, Rule.reason?, Rule.first?_append,
    Option.or_of_isSome (Option.isSome_iff_ne_none.mpr h)]

theorem reason?_append_of_not_first? (h : r.first? front = none) :
    r.reason? host config (front ++ back) = r.reason? host config back := by
  rw [Rule.reason?, Rule.reason?, Rule.first?_append, h, Option.none_or]

theorem reason?_of_not_first? (h : r.first? front = none) : r.reason? host config front = none := by
  rw [Rule.reason?, h, Option.bind_none]

theorem reason?_front (r : Rule) : r.reason? host config front = none ∨
    r.reason? host config front = r.reason? host config (front ++ back) := by
  by_cases h : r.first? front = none
  · exact .inl (reason?_of_not_first? h)
  · exact .inr (reason?_append_of_first? h).symm

theorem reason?_back (h : r.first? front = none ∨ r.first? back = none) :
    r.reason? host config back = none ∨
      r.reason? host config back = r.reason? host config (front ++ back) := by
  rcases h with h | h
  · exact .inr (reason?_append_of_not_first? h).symm
  · exact .inl (reason?_of_not_first? h)

/-- Where the rules with a reason are some of those with a reason elsewhere, the outcome is no worse. -/
theorem rank_outcome_le_of_part {markers part : List Marker}
    (h : ∀ r : Rule, r.reason? host config part = none ∨
      r.reason? host config part = r.reason? host config markers) :
    (outcome host config markers).rank ≤ (outcome host config part).rank := by
  refine rank_outcome_le fun r => ?_
  rcases h r with hr | hr
  · rw [hr]
    exact Decision.rank_le_run _
  · exact Nat.le_of_eq (by rw [hr])

/-- The outcome of two lists without a kind in common is one of their outcomes. -/
theorem outcome_append (h : ∀ r : Rule, r.first? front = none ∨ r.first? back = none) :
    outcome host config (front ++ back) = outcome host config front ∨
      ∃ reason, outcome host config (front ++ back) = .skip reason ∧
        outcome host config back = .skip reason := by
  cases hd : outcome host config (front ++ back) with
  | run =>
      have hle : (outcome host config (front ++ back)).rank ≤ (outcome host config front).rank :=
        rank_outcome_le_of_part reason?_front
      rw [hd] at hle
      exact .inl (Decision.eq_run_of_le hle).symm
  | skip reason =>
      have hs := Decision.ofReason?_eq_skip_iff.mp hd
      -- the list that decides is the one with a marker for the rule
      by_cases hfront : reason.rule.first? front = none
      · refine .inr ⟨reason, rfl, Decision.ofReason?_eq_skip_iff.mpr ?_⟩
        refine findSome?_eq_some_of_le hs (fun r => reason?_back (h r)) fun r hr => ?_
        obtain rfl := Rule.rule_of_reason? host config _ hr
        rw [← hr, reason?_append_of_not_first? hfront]
      · refine .inl (Decision.ofReason?_eq_skip_iff.mpr ?_).symm
        refine findSome?_eq_some_of_le hs reason?_front fun r hr => ?_
        obtain rfl := Rule.rule_of_reason? host config _ hr
        rw [← hr, reason?_append_of_first? hfront]

variable (host config)

/-- Attaching a marker makes no outcome better, and no skip a run. One outside the vocabulary or of a kind
that is attached already leaves the program as it was, on every host. Any other marker leaves the outcome
or brings the skip that it causes alone, and the outcome is no better than that. -/
theorem evaluate_addMarker (item : TestItem) (marker : Marker) (calls : List HostCall) :
    let decision (item : TestItem) := ((evaluate host.recording config item).run calls).1
    let before := decision item
    let after := decision (item.addMarker marker)
    let alone := decision { item with markers := [marker] }
    after.rank ≤ before.rank ∧
    (after = .run → before = .run) ∧
    ((marker.isRegistered = false ∨
        ∃ earlier ∈ item.markers, Rule.of? earlier = Rule.of? marker) →
      ∀ {m : Type → Type} [Monad m] (host : HostEnvironment m),
        evaluate host config (item.addMarker marker) = evaluate host config item) ∧
    (marker.isRegistered = true →
      (∀ earlier ∈ item.markers, Rule.of? earlier ≠ Rule.of? marker) →
      (after = before ∨ ∃ reason, after = .skip reason ∧ alone = .skip reason ∧
        Rule.of? marker = some reason.rule) ∧
      after.rank ≤ alone.rank) := by
  intro decision before after alone
  have hbefore : before = outcome host config item.markers := evaluate_fst host config item calls
  have hafter : after = outcome host config (item.markers ++ [marker]) :=
    evaluate_fst host config _ calls
  have halone : alone = outcome host config [marker] := evaluate_fst host config _ calls
  have hrank : after.rank ≤ before.rank := by
    rw [hafter, hbefore]
    exact rank_outcome_le_of_part reason?_front
  refine ⟨hrank, fun hrun => Decision.eq_run_of_le (hrun ▸ hrank), ?_, ?_⟩
  · intro hidle m _ host
    exact evaluate_congr host config (Rule.first?_append_of_idle hidle)
  · intro _ hfresh
    have hdisjoint := Rule.first?_eq_none_or_of_fresh hfresh
    rw [hafter, hbefore, halone]
    refine ⟨(outcome_append hdisjoint).imp_right ?_,
      rank_outcome_le_of_part fun r => reason?_back (hdisjoint r)⟩
    rintro ⟨reason, hskip, hown⟩
    obtain ⟨own, hm, hr⟩ := exists_of_outcome_eq_skip hown
    rw [List.mem_singleton.mp (List.mem_of_find?_eq_some hm)] at hr
    exact ⟨reason, hskip, hown, rule_of_reasonAt host config hr⟩

/-- A marker for root brings its skip in front of the one for a binary. An empty list of binaries would
be met, but behind another list it makes no difference. -/
theorem evaluate_addMarker_git :
    let host : HostAnswers := ⟨some 1000, fun _ => none, true, true⟩
    let item : TestItem :=
      { name := "push", path := "tests/push.py"
        markers := [.needsNetwork false, .needsBinaries ["git"] true none] }
    let decision (item : TestItem) := ((evaluate host.recording {} item).run []).1
    let met : Marker := .needsBinaries [] false none
    decision item = .skip (.binaryMissing none "git") ∧
      decision (item.addMarker .needsRoot) = .skip .notRoot ∧
      (decision (item.addMarker .needsRoot)).rank ≤ (decision item).rank ∧
      (decision (item.addMarker .needsRoot)).rank ≤
        (decision { item with markers := [.needsRoot] }).rank ∧
      decision { item with markers := [met] } = .run ∧
      decision (item.addMarker met) = decision item := by
  intro host item decision met
  obtain ⟨hrank, -, -, hfresh⟩ := evaluate_addMarker host {} item .needsRoot []
  obtain ⟨-, hown⟩ := hfresh rfl (by decide)
  obtain ⟨-, -, hidle, -⟩ := evaluate_addMarker host {} item met []
  have hsame := hidle (.inr ⟨.needsBinaries ["git"] true none, by decide, rfl⟩) host.recording
  exact ⟨rfl, rfl, hrank, hown, rfl, congrArg (fun x => (StateT.run x []).1) hsame⟩

end TestSelection.Gate
