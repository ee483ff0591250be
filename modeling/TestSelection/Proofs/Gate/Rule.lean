import TestSelection.Gate

/-!
# The markers that count

Each rule of the gate looks at the first marker of its own kind and at nothing else of an item. So two
items on which the rules find the same markers are decided alike, question by question, on every host
(`evaluate_congr`).
-/
namespace TestSelection.Gate

inductive Rule
  | destructive
  | expensive
  | root
  | binaries
  | network
  deriving DecidableEq

namespace Rule

/-- The order in which the rules are asked. -/
def order : List Rule := [destructive, expensive, root, binaries, network]

/-- The rule that looks at a marker; none looks at a name outside the vocabulary. -/
def of? : Marker → Option Rule
  | .destructive => some destructive
  | .expensive => some expensive
  | .needsRoot => some root
  | .needsBinaries .. => some binaries
  | .needsNetwork _ => some network
  | .unregistered _ => none

/-- The first marker that a rule looks at. -/
def first? (r : Rule) (markers : List Marker) : Option Marker :=
  markers.find? fun marker => of? marker = some r

variable {m : Type → Type} [Monad m]

def ask (host : HostEnvironment m) (config : RunConfiguration) (markers : List Marker) :
    Rule → m (Option SkipReason)
  | destructive => pure (destructiveRule config markers)
  | expensive => pure (expensiveRule config markers)
  | root => rootRule host markers
  | binaries => binariesRule host markers
  | network => networkRule host markers

/-! ## What a rule finds -/

theorem of_first? {r : Rule} {markers : List Marker} {marker : Marker}
    (h : r.first? markers = some marker) : of? marker = some r := by
  simpa using List.find?_some h

theorem of?_eq_none_iff {marker : Marker} : of? marker = none ↔ marker.isRegistered = false := by
  cases marker <;> simp [of?, Marker.isRegistered]

/-- A marker behind another one of its kind is never the first one. -/
theorem first?_append_cons {front back : List Marker} {marker : Marker}
    (h : ∃ earlier ∈ front, of? earlier = of? marker) (r : Rule) :
    r.first? (front ++ marker :: back) = r.first? (front ++ back) := by
  rw [first?, first?, List.find?_append, List.find?_append]
  by_cases hr : of? marker = some r
  · obtain ⟨earlier, hmem, he⟩ := h
    have hs : (front.find? fun m => of? m = some r).isSome :=
      List.find?_isSome.mpr ⟨earlier, hmem, by simpa [he] using hr⟩
    rw [Option.or_of_isSome hs, Option.or_of_isSome hs]
  · rw [List.find?_cons_of_neg (by simpa using hr)]

/-- A kind without arguments has one marker, which is there or not. -/
theorem first?_of_single {r : Rule} {marker : Marker} (h : ∀ n, of? n = some r ↔ n = marker)
    (markers : List Marker) : r.first? markers = if marker ∈ markers then some marker else none := by
  induction markers with
  | nil => rfl
  | cons n rest ih =>
      simp only [first?, h] at ih ⊢
      by_cases hn : n = marker
      · simp [hn]
      · simp [hn, Ne.symm hn, ih]

theorem first?_destructive (markers : List Marker) :
    first? destructive markers = if .destructive ∈ markers then some .destructive else none :=
  first?_of_single (by intro n; cases n <;> simp [of?]) markers

theorem first?_expensive (markers : List Marker) :
    first? expensive markers = if .expensive ∈ markers then some .expensive else none :=
  first?_of_single (by intro n; cases n <;> simp [of?]) markers

theorem first?_root (markers : List Marker) :
    first? root markers = if .needsRoot ∈ markers then some .needsRoot else none :=
  first?_of_single (by intro n; cases n <;> simp [of?]) markers

/-- A kind with arguments is read by a function that knows its markers only. -/
theorem first?_of_read {β : Type} {r : Rule} {read : Marker → Option β} {write : β → Marker}
    (h : ∀ n, (of? n = some r ∧ (read n).map write = some n) ∨ (of? n ≠ some r ∧ read n = none))
    (markers : List Marker) : r.first? markers = (markers.findSome? read).map write := by
  induction markers with
  | nil => rfl
  | cons n rest ih =>
      rcases h n with ⟨hr, hn⟩ | ⟨hr, hn⟩
      · obtain ⟨b, hb, hw⟩ := Option.map_eq_some_iff.mp hn
        simp [first?, hr, hb, hw]
      · simpa [first?, hr, hn] using ih

theorem first?_binaries (markers : List Marker) :
    first? binaries markers = (binariesOf? markers).map fun (names, checkAll, message) =>
      .needsBinaries names checkAll message :=
  first?_of_read (by intro n; cases n <;> simp [of?]) markers

theorem first?_network (markers : List Marker) :
    first? network markers = (networkOf? markers).map .needsNetwork :=
  first?_of_read (by intro n; cases n <;> simp [of?]) markers

end Rule

/-! ## Items on which the rules find the same -/

variable {m : Type → Type} [Monad m] {markers markers' : List Marker}

theorem binariesOf?_congr (h : Rule.binaries.first? markers = Rule.binaries.first? markers') :
    binariesOf? markers = binariesOf? markers' := by
  rw [Rule.first?_binaries, Rule.first?_binaries] at h
  refine Option.map_injective ?_ h
  rintro ⟨names, checkAll, message⟩ ⟨names', checkAll', message'⟩ he
  cases he
  rfl

theorem networkOf?_congr (h : Rule.network.first? markers = Rule.network.first? markers') :
    networkOf? markers = networkOf? markers' := by
  rw [Rule.first?_network, Rule.first?_network] at h
  refine Option.map_injective ?_ h
  intro a b he
  cases he
  rfl

theorem Rule.ask_congr (host : HostEnvironment m) (config : RunConfiguration) {r : Rule}
    (h : r.first? markers = r.first? markers') :
    r.ask host config markers = r.ask host config markers' := by
  cases r with
  | destructive =>
      rw [first?_destructive, first?_destructive] at h
      have hm : .destructive ∈ markers ↔ .destructive ∈ markers' := by grind
      simp only [ask, destructiveRule, hm]
  | expensive =>
      rw [first?_expensive, first?_expensive] at h
      have hm : .expensive ∈ markers ↔ .expensive ∈ markers' := by grind
      simp only [ask, expensiveRule, hm]
  | root =>
      rw [first?_root, first?_root] at h
      have hm : .needsRoot ∈ markers ↔ .needsRoot ∈ markers' := by grind
      simp only [ask, rootRule, hm]
  | binaries => simp only [ask, binariesRule, binariesOf?_congr h]
  | network => simp only [ask, networkRule, networkOf?_congr h]

/-- What a rule says and asks about some markers, it says and asks about the first one it looks at. -/
theorem Rule.ask_first (host : HostEnvironment m) (config : RunConfiguration) (r : Rule)
    (markers : List Marker) :
    r.ask host config markers = r.ask host config (r.first? markers).toList := by
  refine ask_congr host config ?_
  cases h : r.first? markers with
  | none => rfl
  | some marker => simp [first?, of_first? h]

theorem evaluate_eq (host : HostEnvironment m) (config : RunConfiguration) (item : TestItem) :
    evaluate host config item = do
      let reason ← firstReason (Rule.order.map (Rule.ask host config item.markers))
      return .ofReason? reason :=
  rfl

/-- Items are decided alike when each rule finds the same marker in both. -/
theorem evaluate_congr (host : HostEnvironment m) (config : RunConfiguration) {item item' : TestItem}
    (h : ∀ r : Rule, r.first? item.markers = r.first? item'.markers) :
    evaluate host config item = evaluate host config item' := by
  rw [evaluate_eq, evaluate_eq]
  have hr : Rule.ask host config item.markers = Rule.ask host config item'.markers :=
    funext fun r => Rule.ask_congr host config (h r)
  rw [hr]

end TestSelection.Gate
