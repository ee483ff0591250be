import TestSelection.Proofs.Gate.Outcome

/-!
# Violated requirements

What a test asks for can be held against a configuration and a host marker by marker, and every
requirement that is not met can be listed, whatever the other ones are. The gate stops at the first
reason, and that is the head of the list (`evaluate_eq_first_violation`).
-/
namespace TestSelection.Gate

/-- A requirement that is not met: the kind of the skip that it causes, and what is said of it. -/
structure Violation where
  kind : SkipKind
  message : String
  deriving DecidableEq

def Violation.ofReason (r : SkipReason) : Violation where
  kind := r.kind
  message := r.message

def Violation.ofDecision : Decision → Option Violation
  | .run => none
  | .skip r => some (.ofReason r)

/-! ## The requirements -/

/-- Binaries are missing when some are listed and, of those, one has no path or, where one is enough,
none has. -/
def BinariesMissing (host : HostAnswers) (binaries : List String) (checkAll : Bool) : Prop :=
  binaries ≠ [] ∧
    if checkAll then ∃ b ∈ binaries, host.which b = none else ∀ b ∈ binaries, host.which b = none

instance (host : HostAnswers) (binaries : List String) (checkAll : Bool) :
    Decidable (BinariesMissing host binaries checkAll) :=
  inferInstanceAs (Decidable (_ ∧ _))

/-- What is said of missing binaries, behind the message of the marker if it has one. -/
def missingText (host : HostAnswers) (binaries : List String) (checkAll : Bool)
    (message : Option String) : String :=
  ((message.filter (· ≠ "")).elim "" (· ++ ". ")) ++
    if checkAll then
      "The \"" ++ (binaries.filter fun b => host.which b = none).headD "" ++ "\" binary was not found"
    else "None of the following binaries was found: " ++ ", ".intercalate binaries

/-- The requirement of a marker, where it is not met. -/
def violation? (host : HostAnswers) (config : RunConfiguration) : Marker → Option Violation
  | .destructive =>
    if config.runDestructive then none
    else some ⟨.configurationDisabled, "Destructive tests are disabled"⟩
  | .expensive =>
    if config.runExpensive then none
    else some ⟨.configurationDisabled, "Expensive tests are disabled"⟩
  | .needsRoot =>
    if host.userId = some 0 then none
    else some ⟨.privilegeRequired, "You must be logged in as root to run this test"⟩
  | .needsBinaries binaries checkAll message =>
    if BinariesMissing host binaries checkAll then
      some ⟨.dependencyMissing, missingText host binaries checkAll message⟩
    else none
  | .needsNetwork onlyLocal =>
    if onlyLocal ∧ ¬host.localNetwork then
      some ⟨.networkUnavailable, "No local network was detected"⟩
    else if ¬host.externalNetwork then
      some ⟨.networkUnavailable, "No internet network connection was detected"⟩
    else none
  | .unregistered _ => none

def Rule.violation? (host : HostAnswers) (config : RunConfiguration) (markers : List Marker)
    (r : Rule) : Option Violation :=
  (r.first? markers).bind (Gate.violation? host config)

/-- All requirements of some markers that are not met, in the order of the rules. Of several markers
of one kind the first counts. -/
def violations (host : HostAnswers) (config : RunConfiguration) (markers : List Marker) :
    List Violation :=
  Rule.order.filterMap (Rule.violation? host config markers)

/-! ## Reasons -/

variable (host : HostAnswers) (config : RunConfiguration)

theorem leadText_eq (message : Option String) :
    SkipReason.leadText message = (message.filter (· ≠ "")).elim "" (· ++ ". ") := by
  rcases message with _ | s
  · rfl
  · by_cases hs : s = ""
    · subst hs; rfl
    · simp [SkipReason.leadText, Option.filter, hs]

theorem violation?_needsAll (binaries : List String) (message : Option String) :
    violation? host config (.needsBinaries binaries true message) =
      (binaries.find? fun b => (host.which b).isNone).map fun b =>
        .ofReason (.binaryMissing message b) := by
  have hf : (binaries.filter fun b => host.which b = none).headD "" =
      (binaries.find? fun b => (host.which b).isNone).getD "" := by
    rw [List.headD_eq_head?_getD, List.head?_filter]
    simp only [← Option.isNone_iff_eq_none, Bool.decide_eq_true]
  cases h : binaries.find? fun b => (host.which b).isNone with
  | none =>
      have hn : ¬BinariesMissing host binaries true := by
        rintro ⟨-, b, hb, hw⟩
        simpa [hw] using List.find?_eq_none.mp h b hb
      simp only [violation?, hn, ↓reduceIte, Option.map_none]
  | some b =>
      have hb := List.mem_of_find?_eq_some h
      have hw : (host.which b).isNone := by simpa using List.find?_some h
      have hm : BinariesMissing host binaries true :=
        ⟨List.ne_nil_of_mem hb, b, hb, Option.isNone_iff_eq_none.mp hw⟩
      simp only [violation?, hm, ↓reduceIte, Option.map_some, missingText, hf, h, Option.getD_some,
        Violation.ofReason, SkipReason.kind, SkipReason.message, leadText_eq, String.append_assoc]

theorem violation?_needsOne (binaries : List String) (message : Option String) :
    violation? host config (.needsBinaries binaries false message) =
      if binaries = [] ∨ binaries.any fun b => (host.which b).isSome then none
      else some (.ofReason (.binariesMissing message binaries)) := by
  have hm : BinariesMissing host binaries false ↔
      ¬(binaries = [] ∨ binaries.any fun b => (host.which b).isSome) := by
    simp [BinariesMissing]
  simp only [violation?, hm, ite_not, missingText, Bool.false_eq_true, ↓reduceIte,
    Violation.ofReason, SkipReason.kind, SkipReason.message, leadText_eq, String.append_assoc]

/-- The reason that a marker gives is told by its kind and its message. -/
theorem violation?_eq (marker : Marker) : violation? host config marker =
    (reasonAt (fun _ => host) config 0 marker).map .ofReason := by
  cases marker with
  | destructive | expensive | needsRoot =>
      simp only [violation?, reasonAt, apply_ite (Option.map Violation.ofReason)]
      rfl
  | needsBinaries binaries checkAll message =>
      cases checkAll with
      | true => rw [violation?_needsAll, reasonAt_needsAll, Option.map_map]; rfl
      | false => rw [violation?_needsOne, reasonAt_needsOne, apply_ite (Option.map _)]; rfl
  | needsNetwork onlyLocal =>
      simp only [violation?, reasonAt, apply_ite (Option.map Violation.ofReason), ite_not]
      rfl
  | unregistered name => rfl

theorem Rule.violation?_eq (markers : List Marker) (r : Rule) :
    r.violation? host config markers = (r.reason? host config markers).map .ofReason := by
  rw [Rule.violation?, Rule.reason?, Option.map_bind]
  exact congrArg (r.first? markers).bind (funext (Gate.violation?_eq host config))

theorem ofDecision_outcome (markers : List Marker) :
    Violation.ofDecision (outcome host config markers) = (violations host config markers).head? := by
  have hv : Rule.violation? host config markers =
      Option.map Violation.ofReason ∘ Rule.reason? host config markers :=
    funext (Rule.violation?_eq host config markers)
  rw [violations, List.head?_filterMap, hv, ← List.map_findSome?, outcome]
  cases Rule.order.findSome? (Rule.reason? host config markers) <;> rfl

/-- A test runs when no requirement is violated, and else it is skipped for the first violation, with
its kind and its message; it does not matter what the host was asked before. -/
theorem evaluate_eq_first_violation (item : TestItem) (calls : List HostCall) :
    let decision := ((evaluate host.recording config item).run calls).1
    (decision = .run ↔ violations host config item.markers = []) ∧
      Violation.ofDecision decision = (violations host config item.markers).head? := by
  intro decision
  have hv : Violation.ofDecision decision = (violations host config item.markers).head? := by
    rw [← ofDecision_outcome, ← evaluate_fst host config item calls]
  refine ⟨?_, hv⟩
  rw [← List.head?_eq_none_iff, ← hv]
  cases decision <;> simp [Violation.ofDecision]

/-- The host is not asked for the network when a binary is missing, but both count as violations. -/
example : violations ⟨none, fun b => if b = "git" then some b else none, false, true⟩ {}
    [.needsNetwork true, .needsBinaries ["git", "make"] true none, .needsNetwork false] =
      [⟨.dependencyMissing, "The \"make\" binary was not found"⟩,
        ⟨.networkUnavailable, "No local network was detected"⟩] := by
  decide

end TestSelection.Gate
