import TestSelection.Proofs.Gate.Rule
import TestSelection.Proofs.Host.Changing

/-!
# What is asked before a decision

Each rule asks the host about the first marker of its kind, and the rules are asked one after another
up to the first one with a reason to skip. So the questions of an evaluation are known from its item
and the answers, also on a host that changes while it is asked, and none of them comes behind the one
that decides (`calls_evaluate`).
-/
namespace TestSelection.Gate

/-! ## Questions and reasons of a marker -/

/-- The questions about a marker, the first one at moment `n`. -/
def questionsAt (host : Nat → HostAnswers) (n : Nat) : Marker → List HostCall
  | .needsRoot => [.userId]
  | .needsBinaries binaries checkAll _ => searchCalls host n checkAll binaries
  | .needsNetwork onlyLocal =>
    (if onlyLocal then [.localNetwork] else []) ++
      if onlyLocal ∧ ¬(host n).localNetwork then [] else [.externalNetwork]
  | .destructive | .expensive | .unregistered _ => []

/-- The reason to skip that a marker gives when its first question is asked at moment `n`. -/
def reasonAt (host : Nat → HostAnswers) (config : RunConfiguration) (n : Nat) :
    Marker → Option SkipReason
  | .destructive => if config.runDestructive then none else some .destructiveDisabled
  | .expensive => if config.runExpensive then none else some .expensiveDisabled
  | .needsRoot => if (host n).userId = some 0 then none else some .notRoot
  | .needsBinaries binaries true message =>
    ((binaries.zipIdx n).find? (endsSearch host true)).map fun (b, _) => .binaryMissing message b
  | .needsBinaries binaries false message =>
    if binaries = [] ∨ (binaries.zipIdx n).any (endsSearch host false) then none
    else some (.binariesMissing message binaries)
  | .needsNetwork onlyLocal =>
    if onlyLocal ∧ ¬(host n).localNetwork then some .noLocalNetwork
    else if (host (if onlyLocal then n + 1 else n)).externalNetwork then none
    else some .noInternet
  | .unregistered _ => none

/-- The question whose answer is a reason to skip; the configuration needs none. -/
def question? : SkipReason → Option HostCall
  | .destructiveDisabled | .expensiveDisabled => none
  | .notRoot => some .userId
  | .binaryMissing _ b => some (.which b)
  | .binariesMissing _ binaries => binaries.getLast?.map .which
  | .noLocalNetwork => some .localNetwork
  | .noInternet => some .externalNetwork

variable (host : Nat → HostAnswers) (config : RunConfiguration) {n : Nat}

theorem givesAt_binaries (binaries : List String) (checkAll : Bool) (message : Option String) :
    GivesAt n (binariesRule (.changing host) [.needsBinaries binaries checkAll message])
      (reasonAt host config n (.needsBinaries binaries checkAll message))
      (questionsAt host n (.needsBinaries binaries checkAll message)) := by
  cases binaries with
  | nil => cases checkAll <;> exact .pure none
  | cons b rest =>
      cases checkAll with
      | true =>
          have hg := (givesAt_firstMissing host n (b :: rest)).map fun missing =>
            missing.map (SkipReason.binaryMissing message)
          rw [Option.map_map] at hg
          exact hg
      | false =>
          have hg := (givesAt_whichAny host n (b :: rest)).map fun found =>
            if found.isNone then some (SkipReason.binariesMissing message (b :: rest)) else none
          rw [isNone_findSome?_which] at hg
          simp only [reasonAt, List.cons_ne_nil, false_or]
          cases h : ((b :: rest).zipIdx n).any (endsSearch host false) <;> rw [h] at hg <;> exact hg

theorem givesAt_network (onlyLocal : Bool) :
    GivesAt n (networkRule (.changing host) [.needsNetwork onlyLocal])
      (reasonAt host config n (.needsNetwork onlyLocal))
      (questionsAt host n (.needsNetwork onlyLocal)) := by
  have internet (k : Nat) := (givesAt_externalNetwork host k).map fun found =>
    if found then none else some SkipReason.noInternet
  cases onlyLocal with
  | false => exact internet n
  | true =>
      have hl := givesAt_localNetwork host n
      cases h : (host n).localNetwork with
      | true =>
          rw [h] at hl
          simp only [reasonAt, questionsAt, h]
          exact hl.bind (internet (n + 1))
      | false =>
          rw [h] at hl
          simp only [reasonAt, questionsAt, h]
          exact hl.bind_pure rfl

theorem givesAt_ask {r : Rule} {marker : Marker} (h : Rule.of? marker = some r) :
    GivesAt n (r.ask (.changing host) config [marker]) (reasonAt host config n marker)
      (questionsAt host n marker) := by
  cases marker with
  | destructive =>
      cases h
      have hr : destructiveRule config [.destructive] = reasonAt host config n .destructive := by
        cases hc : config.runDestructive <;> simp [destructiveRule, reasonAt, hc]
      exact hr ▸ .pure _
  | expensive =>
      cases h
      have hr : expensiveRule config [.expensive] = reasonAt host config n .expensive := by
        cases hc : config.runExpensive <;> simp [expensiveRule, reasonAt, hc]
      exact hr ▸ .pure _
  | needsRoot =>
      cases h
      exact (givesAt_userId host n).map fun user =>
        if user = some 0 then none else some SkipReason.notRoot
  | needsBinaries binaries checkAll message =>
      cases h
      exact givesAt_binaries host config binaries checkAll message
  | needsNetwork onlyLocal =>
      cases h
      exact givesAt_network host config onlyLocal
  | unregistered name => cases h

/-- The question behind a reason is the last one about its marker. Only the configuration gives reasons
without a question. -/
theorem getLast?_questionsAt {marker : Marker} {reason : SkipReason}
    (h : reasonAt host config n marker = some reason) :
    (questionsAt host n marker).getLast? = question? reason ∧
      (question? reason = none → marker = .destructive ∨ marker = .expensive) := by
  cases marker with
  | destructive | expensive | needsRoot =>
      simp only [reasonAt, Option.ite_none_left_eq_some, Option.some.injEq] at h
      rw [← h.2]
      simp [questionsAt, question?]
  | needsBinaries binaries checkAll message =>
      cases checkAll with
      | true =>
          obtain ⟨⟨b, k⟩, hf, rfl⟩ := Option.map_eq_some_iff.mp h
          exact ⟨getLast?_searchCalls host n hf, nofun⟩
      | false =>
          simp only [reasonAt, Option.ite_none_left_eq_some, Option.some.injEq, not_or,
            Bool.not_eq_true] at h
          obtain ⟨⟨hne, ha⟩, rfl⟩ := h
          rw [questionsAt, searchCalls_of_not_any host n ha, List.getLast?_map]
          exact ⟨rfl, fun hq => absurd hq (by simpa [question?] using hne)⟩
  | needsNetwork onlyLocal =>
      simp only [reasonAt] at h
      split at h
      · next hl =>
          cases h
          rw [questionsAt, if_pos hl, if_pos hl.1]
          exact ⟨rfl, nofun⟩
      · next hl =>
          rw [Option.ite_none_left_eq_some] at h
          cases h.2
          rw [questionsAt, if_neg hl, List.getLast?_concat]
          exact ⟨rfl, nofun⟩
  | unregistered name => cases h

/-- The rule that asks a question. -/
def ruleOf : HostCall → Rule
  | .userId => .root
  | .which _ => .binaries
  | .localNetwork | .externalNetwork => .network

theorem ruleOf_questionsAt {marker : Marker} {c : HostCall} (h : c ∈ questionsAt host n marker) :
    Rule.of? marker = some (ruleOf c) := by
  cases marker with
  | destructive | expensive | unregistered name => cases h
  | needsRoot =>
      cases List.mem_singleton.mp h
      rfl
  | needsBinaries binaries checkAll message =>
      obtain ⟨b, -, rfl⟩ := List.mem_map.mp h
      rfl
  | needsNetwork onlyLocal => cases c <;> simp [questionsAt] at h ⊢ <;> rfl

theorem count_questionsAt {c : HostCall} (hc : ∀ b, c ≠ .which b) (marker : Marker) :
    (questionsAt host n marker).count c ≤ 1 := by
  cases marker with
  | destructive | expensive | unregistered name => exact Nat.zero_le 1
  | needsRoot => exact List.count_le_length
  | needsBinaries binaries checkAll message =>
      have hzero : (searchCalls host n checkAll binaries).count c = 0 := by
        refine List.count_eq_zero.mpr fun hm => ?_
        obtain ⟨b, -, rfl⟩ := List.mem_map.mp hm
        exact hc b rfl
      exact hzero ▸ Nat.zero_le 1
  | needsNetwork onlyLocal =>
      cases c with
      | which b => exact absurd rfl (hc b)
      | userId | localNetwork | externalNetwork =>
          rw [questionsAt]
          cases onlyLocal <;> cases (host n).localNetwork <;> decide

/-! ## Questions and reasons of a rule -/

variable (markers : List Marker)

def Rule.questionsAt (n : Nat) (r : Rule) : List HostCall :=
  (r.first? markers).elim [] (Gate.questionsAt host n)

def Rule.reasonAt (n : Nat) (r : Rule) : Option SkipReason :=
  (r.first? markers).bind (Gate.reasonAt host config n)

theorem Rule.givesAt_ask (r : Rule) :
    GivesAt n (r.ask (.changing host) config markers) (r.reasonAt host config markers n)
      (r.questionsAt host markers n) := by
  rw [ask_first, Rule.reasonAt, Rule.questionsAt]
  cases h : r.first? markers with
  | none => cases r <;> exact .pure none
  | some marker => exact Gate.givesAt_ask host config (of_first? h)

/-- The configuration alone decides, and the host is asked nothing. -/
def Rule.IsSilent (r : Rule) : Prop :=
  r = destructive ∨ r = expensive

instance (r : Rule) : Decidable r.IsSilent :=
  inferInstanceAs (Decidable (_ ∨ _))

theorem Rule.questionsAt_of_isSilent {r : Rule} (hr : r.IsSilent) :
    r.questionsAt host markers n = [] := by
  rcases hr with rfl | rfl
  · rw [Rule.questionsAt, first?_destructive]
    split <;> rfl
  · rw [Rule.questionsAt, first?_expensive]
    split <;> rfl

theorem Rule.questionsAt_root : Rule.root.questionsAt host markers n =
    if .needsRoot ∈ markers then [.userId] else [] := by
  rw [Rule.questionsAt, first?_root]
  split <;> rfl

/-- The question behind the reason of a rule is its last one, and there is one unless the configuration
alone decides. -/
theorem Rule.getLast?_questionsAt {r : Rule} {reason : SkipReason}
    (h : r.reasonAt host config markers n = some reason) :
    (r.questionsAt host markers n).getLast? = question? reason ∧
      (¬r.IsSilent → (question? reason).isSome) := by
  obtain ⟨marker, hm, hr⟩ := Option.bind_eq_some_iff.mp h
  obtain ⟨hl, hq⟩ := Gate.getLast?_questionsAt host config hr
  rw [Rule.questionsAt, hm, Option.elim_some]
  refine ⟨hl, fun hs => Option.isSome_iff_ne_none.mpr fun hn => hs ?_⟩
  have hk := of_first? hm
  rcases hq hn with rfl | rfl
  · exact .inl (Option.some.inj hk).symm
  · exact .inr (Option.some.inj hk).symm

theorem Rule.ruleOf_questionsAt {r : Rule} {c : HostCall} (h : c ∈ r.questionsAt host markers n) :
    ruleOf c = r := by
  rw [Rule.questionsAt] at h
  cases hm : r.first? markers with
  | none =>
      rw [hm] at h
      cases h
  | some marker =>
      rw [hm] at h
      have hk := Gate.ruleOf_questionsAt host h
      rw [of_first? hm] at hk
      exact (Option.some.inj hk).symm

theorem Rule.count_questionsAt {c : HostCall} (hc : ∀ b, c ≠ .which b) (r : Rule) :
    (r.questionsAt host markers n).count c ≤ 1 := by
  rw [Rule.questionsAt]
  cases r.first? markers with
  | none => exact Nat.zero_le 1
  | some marker => exact Gate.count_questionsAt host hc marker

/-! ## The run -/

/-- The reason of the first of some rules that has one, when the first rule is asked at moment `n`. -/
def reasonOf (n : Nat) : List Rule → Option SkipReason
  | [] => none
  | r :: rest =>
    (r.reasonAt host config markers n).or
      (reasonOf (n + (r.questionsAt host markers n).length) rest)

/-- The questions of some rules: those of the first rule and, unless it has a reason to skip, those of
the rules behind it. -/
def callsOf (n : Nat) : List Rule → List HostCall
  | [] => []
  | r :: rest =>
    let asked := r.questionsAt host markers n
    asked ++ if (r.reasonAt host config markers n).isSome then [] else callsOf (n + asked.length) rest

theorem givesAt_firstReason (rules : List Rule) :
    GivesAt n (firstReason (rules.map (Rule.ask (.changing host) config markers)))
      (reasonOf host config markers n rules) (callsOf host config markers n rules) := by
  induction rules generalizing n with
  | nil => exact .pure none
  | cons r rest ih =>
      have hr := Rule.givesAt_ask (n := n) host config markers r
      rw [List.map_cons, firstReason, reasonOf, callsOf]
      cases h : r.reasonAt host config markers n with
      | some reason =>
          rw [h] at hr
          exact hr.bind (.pure (some reason))
      | none =>
          rw [h] at hr
          exact hr.bind ih

theorem givesAt_evaluate (item : TestItem) :
    GivesAt n (evaluate (.changing host) config item)
      (.ofReason? (reasonOf host config item.markers n Rule.order))
      (callsOf host config item.markers n Rule.order) :=
  (givesAt_firstReason host config item.markers Rule.order).map Decision.ofReason?

/-- Where the rules that ask nothing come first, the last question is the one behind the reason. -/
theorem getLast?_callsOf {rules : List Rule} {reason : SkipReason}
    (hrules : rules.Pairwise fun r r' => r.IsSilent ∨ ¬r'.IsSilent)
    (h : reasonOf host config markers n rules = some reason) :
    (callsOf host config markers n rules).getLast? = question? reason ∧
      ((∀ r ∈ rules, ¬r.IsSilent) → (question? reason).isSome) := by
  induction rules generalizing n with
  | nil => cases h
  | cons r rest ih =>
      obtain ⟨hfirst, hrest⟩ := List.pairwise_cons.mp hrules
      rw [reasonOf] at h
      rw [callsOf]
      cases hr : r.reasonAt host config markers n with
      | some reason' =>
          rw [hr] at h
          cases h
          rw [Option.isSome_some, if_pos rfl, List.append_nil]
          obtain ⟨hl, hq⟩ := Rule.getLast?_questionsAt host config markers hr
          exact ⟨hl, fun hall => hq (hall r List.mem_cons_self)⟩
      | none =>
          rw [hr, Option.none_or] at h
          obtain ⟨hl, hq⟩ := ih hrest h
          rw [Option.isSome_none, if_neg Bool.false_ne_true]
          refine ⟨?_, fun hall => hq fun r' hm => hall r' (List.mem_cons_of_mem r hm)⟩
          by_cases hs : r.IsSilent
          · rw [Rule.questionsAt_of_isSilent host markers hs] at hl ⊢
            exact hl
          · have hsome := hq fun r' hm => (hfirst r' hm).resolve_left hs
            rw [← hl] at hsome ⊢
            rw [List.getLast?_append, Option.or_of_isSome hsome]

theorem rule_mem_of_mem_callsOf {rules : List Rule} {c : HostCall}
    (h : c ∈ callsOf host config markers n rules) : ruleOf c ∈ rules := by
  induction rules generalizing n with
  | nil => cases h
  | cons r rest ih =>
      rw [callsOf] at h
      rcases List.mem_append.mp h with h | h
      · rw [Rule.ruleOf_questionsAt host markers h]
        exact List.mem_cons_self
      · split at h
        · cases h
        · exact List.mem_cons_of_mem r (ih h)

/-- No question is asked twice, but a binary can be listed twice. -/
theorem count_callsOf {rules : List Rule} {c : HostCall} (hc : ∀ b, c ≠ .which b)
    (hrules : rules.Nodup) : (callsOf host config markers n rules).count c ≤ 1 := by
  induction rules generalizing n with
  | nil => exact Nat.zero_le 1
  | cons r rest ih =>
      obtain ⟨hr, hrest⟩ := List.nodup_cons.mp hrules
      rw [callsOf, List.count_append]
      by_cases hrule : ruleOf c = r
      · have hzero (k : Nat) : (callsOf host config markers k rest).count c = 0 :=
          List.count_eq_zero.mpr fun hm => hr (hrule ▸ rule_mem_of_mem_callsOf host config markers hm)
        have hone := Rule.count_questionsAt (n := n) host markers hc r
        split
        · exact hone
        · rwa [hzero]
      · have hzero : (r.questionsAt host markers n).count c = 0 :=
          List.count_eq_zero.mpr fun hm => hrule (Rule.ruleOf_questionsAt host markers hm)
        rw [hzero, Nat.zero_add]
        split
        · exact Nat.zero_le 1
        · exact ih hrest

/-! ## The order of the rules -/

/-- The questions of an evaluation. The two rules that need no host come first, and each of the other
three is asked behind the questions of those before it, unless one of them has a reason to skip. -/
def neededCalls : List HostCall :=
  let skips (r : Rule) (n : Nat) : Bool := (r.reasonAt host config markers n).isSome
  if skips .destructive 0 || skips .expensive 0 then []
  else
    let user := if .needsRoot ∈ markers then [.userId] else []
    user ++ if skips .root 0 then []
      else
        let search := Rule.binaries.questionsAt host markers user.length
        search ++ if skips .binaries user.length then []
          else Rule.network.questionsAt host markers (user.length + search.length)

theorem callsOf_order :
    callsOf host config markers 0 Rule.order = neededCalls host config markers := by
  simp only [Rule.order, callsOf, neededCalls, Rule.questionsAt_of_isSilent host markers (.inl rfl),
    Rule.questionsAt_of_isSilent host markers (.inr rfl), Rule.questionsAt_root, List.length_nil,
    Nat.zero_add, List.nil_append, List.append_nil, ite_self]
  cases (Rule.destructive.reasonAt host config markers 0).isSome <;> rfl

/-- The questions of an evaluation are known from the markers, the configuration and the answers. The
last one of them is the one behind the reason to skip, the user and the networks are asked for at most
once, and a marker behind another one of its kind makes no difference. -/
theorem calls_evaluate (item : TestItem) :
    let run := (evaluate (.changing host) config item).run []
    run.2 = neededCalls host config item.markers ∧
    (∀ reason, run.1 = .skip reason → run.2.getLast? = question? reason) ∧
    run.2.count .userId ≤ 1 ∧ run.2.count .localNetwork ≤ 1 ∧ run.2.count .externalNetwork ≤ 1 ∧
    ∀ front marker back, item.markers = front ++ marker :: back →
      (∃ earlier ∈ front, Rule.of? earlier = Rule.of? marker) →
      (evaluate (.changing host) config { item with markers := front ++ back }).run [] = run := by
  intro run
  have hrun : run = (.ofReason? (reasonOf host config item.markers 0 Rule.order),
      callsOf host config item.markers 0 Rule.order) := givesAt_evaluate host config item [] rfl
  have hcount (c : HostCall) (hc : ∀ b, c ≠ .which b) : run.2.count c ≤ 1 := by
    rw [hrun]
    exact count_callsOf host config item.markers hc (by decide)
  refine ⟨?_, fun reason h => ?_, hcount _ nofun, hcount _ nofun, hcount _ nofun, ?_⟩
  · rw [hrun, callsOf_order]
  · rw [hrun] at h ⊢
    refine (getLast?_callsOf host config item.markers (by decide) ?_).1
    cases hr : reasonOf host config item.markers 0 Rule.order <;> rw [hr] at h <;> cases h
    rfl
  · intro front marker back hm he
    have hfirst (r : Rule) : r.first? (front ++ back) = r.first? item.markers := by
      rw [hm, Rule.first?_append_cons he]
    exact congrArg (fun x => StateT.run x []) (evaluate_congr (.changing host) config hfirst)

/-- The host forgets a binary between two questions about it, and the second answer decides. The network
and the second list of binaries are not asked for. -/
theorem calls_evaluate_forgetful :
    let host (n : Nat) : HostAnswers := ⟨some 0, fun b => if n = 1 then some b else none, true, true⟩
    let listed : Marker := .needsBinaries ["git", "git", "make"] true none
    let item : TestItem :=
      { name := "push", path := "tests/push.py"
        markers := [.needsNetwork true, listed, .needsBinaries ["svn"] false none, .needsRoot] }
    let run := (evaluate (.changing host) {} item).run []
    run = (.skip (.binaryMissing none "git"), [.userId, .which "git", .which "git"]) ∧
      run.2.getLast? = some (.which "git") ∧
      (evaluate (.changing host) {}
        { item with markers := [.needsNetwork true, listed] ++ [.needsRoot] }).run [] = run := by
  intro host listed item run
  have hrun : run = (.skip (.binaryMissing none "git"), [.userId, .which "git", .which "git"]) := rfl
  obtain ⟨-, hlast, -, -, -, hlater⟩ := calls_evaluate host {} item
  refine ⟨hrun, hlast _ (congrArg Prod.fst hrun), ?_⟩
  exact hlater [.needsNetwork true, listed] _ [.needsRoot] rfl ⟨listed, by simp, rfl⟩

end TestSelection.Gate
