import TestSelection.Proofs.Marker.Vocabulary
import TestSelection.Suite

/-!
# Strict and lenient building

A lenient run notes each marker outside the vocabulary with a warning, a strict run refuses the first
one. So the warnings of the lenient run foretell the strict one: without a warning the two come to the
same result, and otherwise the strict run refuses the marker of the first warning, whatever the
lenient run came to (`build_strict_of_build_lenient`).
-/
namespace TestSelection.Suite

variable {α β : Type}

/-- A step and, where it succeeds, another one behind it; the logs stand one behind the other. -/
def andThen (x : Except ManifestError α × Log) (f : α → Except ManifestError β × Log) :
    Except ManifestError β × Log :=
  match x with
  | (.error e, log) => (.error e, log)
  | (.ok a, log) => ((f a).1, log ++ (f a).2)

theorem andThen_fst (x : Except ManifestError α × Log) (f : α → Except ManifestError β × Log) :
    (andThen x f).1 = x.1 >>= fun a => (f a).1 := by
  rcases x with ⟨e | a, log⟩ <;> rfl

/-! ## Building in steps -/

def readEntry (strict : Bool) (test : String) (entry : MarkerEntry) :
    Except ManifestError Marker × Log :=
  match entry.marker with
  | .error source => (.error (.marker test source), [])
  | .ok marker =>
    if MarkerRegistry.standard.contains marker.name then (.ok marker, [])
    else if strict then (.error (.unknownMarker test marker.name), [])
    else (.ok marker, [ignored test marker.name])

theorem attach_cons (strict : Bool) (item : TestItem) (entry : MarkerEntry)
    (rest : List MarkerEntry) : attach strict item (entry :: rest) =
      andThen (readEntry strict item.name entry) fun marker =>
        attach strict (item.addMarker marker) rest := by
  rw [attach, readEntry]
  cases entry.marker with
  | error source => rfl
  | ok marker =>
      dsimp only
      split
      · rfl
      · split <;> rfl

theorem collect_cons (strict : Bool) (classifier : Classifier) (t : TestEntry)
    (rest : List TestEntry) : collect strict classifier (t :: rest) =
      andThen (attach strict (bareItem t) t.markers) fun item =>
        ((collect strict classifier rest).1.map (item.tagBy classifier :: ·),
          collected (item.tagBy classifier) :: (collect strict classifier rest).2) := by
  rw [collect]
  rcases attach strict (bareItem t) t.markers with ⟨e | item, log⟩ <;> rfl

def ofItems (m : Manifest) (items : List TestItem) : Except ManifestError Suite := do
  let probes ← (ProbeSettings.ofNetwork m.settings.network).mapError .invalid
  return {
    name := m.name
    runConfiguration := m.settings.runConfiguration
    probes
    classifier := Classifier.ofCategories m.settings.categories
    items }

theorem build_eq (m : Manifest) (strict : Bool) : build m strict =
    andThen (collect (strict || m.settings.strictMarkers)
      (Classifier.ofCategories m.settings.categories) m.tests) fun items =>
        (ofItems m items, []) := by
  rcases h : collect (strict || m.settings.strictMarkers)
    (Classifier.ofCategories m.settings.categories) m.tests with ⟨e | items, log⟩
  · simp only [build, h, andThen]
    rfl
  · simp only [build, h, andThen, List.append_nil]
    rfl

/-! ## The strict run that a lenient one foretells -/

def warnings (log : Log) : Log :=
  log.filter fun e => e.level = .warn

/-- A strict result belongs to a lenient run: it is the same where nothing was warned of, and else
the marker of the first warning is refused. -/
def Foretells (lenient : Except ManifestError α × Log) (strict : Except ManifestError α) : Prop :=
  match warnings lenient.2 with
  | [] => strict = lenient.1
  | first :: _ => ∃ test marker, first = ignored test marker ∧
      strict = .error (.unknownMarker test marker)

theorem Foretells.quiet {x : Except ManifestError α × Log} (h : warnings x.2 = []) :
    Foretells x x.1 := by
  rw [Foretells, h]

theorem Foretells.andThen {x : Except ManifestError α × Log} {strict : Except ManifestError α}
    {f : α → Except ManifestError β × Log} {g : α → Except ManifestError β} (hx : Foretells x strict)
    (hf : ∀ a, Foretells (f a) (g a)) : Foretells (andThen x f) (strict >>= g) := by
  rcases x with ⟨result, log⟩
  simp only [Foretells] at hx
  cases hw : warnings log with
  | nil =>
      simp only [hw] at hx
      subst hx
      cases strict with
      | error e => exact .quiet hw
      | ok a =>
          have ha := hf a
          simp only [Foretells, Suite.andThen, warnings, List.filter_append] at ha hw ⊢
          rwa [hw]
  | cons first more =>
      simp only [hw] at hx
      obtain ⟨test, marker, hfirst, rfl⟩ := hx
      cases result with
      | error e =>
          simp only [Foretells, Suite.andThen, hw]
          exact ⟨test, marker, hfirst, rfl⟩
      | ok a =>
          simp only [Foretells, Suite.andThen, warnings, List.filter_append] at hw ⊢
          rw [hw]
          exact ⟨test, marker, hfirst, rfl⟩

theorem Foretells.map {x : Except ManifestError α × Log} {strict : Except ManifestError α}
    (hx : Foretells x strict) (f : α → β) : Foretells (x.1.map f, x.2) (strict.map f) := by
  simp only [Foretells] at hx ⊢
  split at hx
  · rw [hx]
  · obtain ⟨test, marker, hfirst, rfl⟩ := hx
    exact ⟨test, marker, hfirst, rfl⟩

theorem Foretells.cons {x : Except ManifestError α × Log} {strict : Except ManifestError α}
    {event : LogEvent} (he : event.level ≠ .warn) (hx : Foretells x strict) :
    Foretells (x.1, event :: x.2) strict := by
  have hw : warnings (event :: x.2) = warnings x.2 := List.filter_cons_of_neg (by simpa using he)
  simp only [Foretells] at hx ⊢
  rwa [hw]

/-! ## Every step foretells -/

theorem foretells_readEntry (test : String) (entry : MarkerEntry) :
    Foretells (readEntry false test entry) (readEntry true test entry).1 := by
  unfold readEntry
  cases entry.marker with
  | error source => exact .quiet rfl
  | ok marker =>
      dsimp only
      split
      · exact .quiet rfl
      · exact ⟨test, marker.name, rfl, rfl⟩

theorem foretells_attach (item : TestItem) (entries : List MarkerEntry) :
    Foretells (attach false item entries) (attach true item entries).1 := by
  induction entries generalizing item with
  | nil => exact .quiet rfl
  | cons entry rest ih =>
      rw [attach_cons, attach_cons, andThen_fst]
      exact (foretells_readEntry item.name entry).andThen fun marker => ih (item.addMarker marker)

theorem foretells_collect (classifier : Classifier) (tests : List TestEntry) :
    Foretells (collect false classifier tests) (collect true classifier tests).1 := by
  induction tests with
  | nil => exact .quiet rfl
  | cons t rest ih =>
      rw [collect_cons, collect_cons, andThen_fst]
      refine (foretells_attach (bareItem t) t.markers).andThen fun item => ?_
      have he : (collected (item.tagBy classifier)).level ≠ .warn := nofun
      exact (ih.map (item.tagBy classifier :: ·)).cons he

/-- The manifest that asks for a strict run itself. -/
def strictly (m : Manifest) : Manifest :=
  { m with settings := { m.settings with strictMarkers := true } }

/-- A strict run, asked for by the caller or by the manifest, comes to the result of the lenient run
if that warned of nothing, and else it refuses the marker of the first warning. -/
theorem build_strict_of_build_lenient (m : Manifest) (h : m.settings.strictMarkers = false) :
    ∀ strict ∈ [build m true, build (strictly m) false, build (strictly m) true],
      (warnings (build m false).2 = [] → strict.1 = (build m false).1) ∧
      ∀ first rest, warnings (build m false).2 = first :: rest →
        ∃ test marker, first = ignored test marker ∧
          strict.1 = .error (.unknownMarker test marker) := by
  intro strict hs
  have hstrict : strict.1 = (collect true (Classifier.ofCategories m.settings.categories) m.tests).1
      >>= ofItems m := by
    simp only [List.mem_cons, List.not_mem_nil, or_false] at hs
    rcases hs with rfl | rfl | rfl <;> rw [build_eq, andThen_fst] <;> rfl
  have hf : Foretells (build m false) strict.1 := by
    rw [hstrict, build_eq, h]
    exact (foretells_collect _ m.tests).andThen fun items => .quiet rfl
  simp only [Foretells] at hf
  constructor
  · intro hw
    simpa only [hw] using hf
  · intro first rest hw
    simpa only [hw] using hf

/-- A manifest with two unregistered markers and, behind them, a marker without a name. -/
def nameless : Manifest where
  version := Manifest.knownVersion
  tests := [
    { name := "a", path := "a.py", markers := [.bare Marker.destructiveName, .bare "flaky"] },
    { name := "b", path := "b.py", markers := [.bare "slow", .bare ""] }]

theorem build_nameless : nameless.settings.strictMarkers = false ∧
    (build nameless false).1 = .error (.marker "b" .emptyName) ∧
    (build nameless true).1 = .error (.unknownMarker "a" "flaky") := by
  have hw : warnings (build nameless false).2 = [ignored "a" "flaky", ignored "b" "slow"] := by
    decide
  obtain ⟨test, marker, hfirst, hs⟩ :=
    (build_strict_of_build_lenient nameless rfl _ List.mem_cons_self).2 _ _ hw
  cases hfirst
  exact ⟨rfl, rfl, hs⟩

end TestSelection.Suite
