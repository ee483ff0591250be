import TestSelection.Proofs.Gate.Rule

/-!
# Items that are decided alike

A decision looks at few things of an item: which of the plain markers it has, and the first markers that
list binaries and ask for a network. Items that agree on these are decided by one program, whatever else
they are made of. Markers that change places agree if the markers with arguments keep their order among
those of their kind (`evaluate_eq_of_agree`).
-/
namespace TestSelection.Gate

/-- Two lists have the same plain markers and the same first markers with arguments. -/
structure Agree (markers markers' : List Marker) : Prop where
  destructive : .destructive ∈ markers ↔ .destructive ∈ markers'
  expensive : .expensive ∈ markers ↔ .expensive ∈ markers'
  needsRoot : .needsRoot ∈ markers ↔ .needsRoot ∈ markers'
  binaries : Rule.binaries.first? markers = Rule.binaries.first? markers'
  network : Rule.network.first? markers = Rule.network.first? markers'

/-- The markers of a rule, in their order. -/
def Rule.markersOf (r : Rule) (markers : List Marker) : List Marker :=
  markers.filter fun marker => of? marker = some r

/-- The markers of one list in another order, in which the markers that list binaries stand as before
among themselves, and so do those that ask for a network. -/
structure Reordered (markers markers' : List Marker) : Prop where
  perm : markers.Perm markers'
  binaries : Rule.binaries.markersOf markers = Rule.binaries.markersOf markers'
  network : Rule.network.markersOf markers = Rule.network.markersOf markers'

variable {markers markers' : List Marker}

theorem Rule.first?_eq_of_markersOf {r : Rule} (h : r.markersOf markers = r.markersOf markers') :
    r.first? markers = r.first? markers' := by
  have hhead := congrArg List.head? h
  rwa [markersOf, markersOf, List.head?_filter, List.head?_filter] at hhead

theorem Reordered.agree (h : Reordered markers markers') : Agree markers markers' where
  destructive := h.perm.mem_iff
  expensive := h.perm.mem_iff
  needsRoot := h.perm.mem_iff
  binaries := Rule.first?_eq_of_markersOf h.binaries
  network := Rule.first?_eq_of_markersOf h.network

theorem Agree.first?_eq (h : Agree markers markers') (r : Rule) :
    r.first? markers = r.first? markers' := by
  cases r with
  | destructive => simp only [Rule.first?_destructive, h.destructive]
  | expensive => simp only [Rule.first?_expensive, h.expensive]
  | root => simp only [Rule.first?_root, h.needsRoot]
  | binaries => exact h.binaries
  | network => exact h.network

/-- Items whose markers agree are decided by one program, whatever monad the host answers in, and so
are items whose markers stand in another order. So each host is asked the same questions in the same
order, and the decision is the same. -/
theorem evaluate_eq_of_agree {item item' : TestItem}
    (h : Agree item.markers item'.markers ∨ Reordered item.markers item'.markers)
    {m : Type → Type} [Monad m] (host : HostEnvironment m) (config : RunConfiguration) :
    evaluate host config item = evaluate host config item' :=
  evaluate_congr host config (h.elim id Reordered.agree).first?_eq

/-- One test with its markers in two orders, and another test with markers of no consequence. -/
theorem evaluate_eq_of_agree_push :
    let git : Marker := .needsBinaries ["git"] true (some "no git")
    let svn : Marker := .needsBinaries ["svn"] false none
    let item : TestItem :=
      { name := "push", path := "tests/push.py", markers := [.needsRoot, git, svn, .needsNetwork true] }
    let reordered : TestItem := { item with markers := [.needsNetwork true, git, .needsRoot, svn] }
    let other : TestItem :=
      { name := "pull", path := "pull.py", tags := ["unit"]
        markers := [.unregistered "slow", git, .needsNetwork true, .needsRoot, .needsRoot,
          .needsNetwork false] }
    let host : HostAnswers := ⟨some 0, fun _ => none, true, true⟩
    let outcome (item : TestItem) := (evaluate host.recording {} item).run []
    Reordered item.markers reordered.markers ∧ Agree item.markers other.markers ∧
      outcome item = (.skip (.binaryMissing (some "no git") "git"), [.userId, .which "git"]) ∧
      outcome item = outcome reordered ∧ outcome item = outcome other := by
  intro git svn item reordered other host outcome
  have hr : Reordered item.markers reordered.markers := ⟨by decide, by decide, by decide⟩
  have ha : Agree item.markers other.markers := by
    constructor <;> decide
  have heq (item' : TestItem) (h : evaluate host.recording {} item = evaluate host.recording {} item') :
      outcome item = outcome item' := congrArg (fun x => StateT.run x []) h
  exact ⟨hr, ha, rfl, heq _ (evaluate_eq_of_agree (.inr hr) host.recording {}),
    heq _ (evaluate_eq_of_agree (.inl ha) host.recording {})⟩

end TestSelection.Gate
