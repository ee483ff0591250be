import Mathlib.Data.List.TakeWhile
import TestSelection.Proofs.Suite.Item

/-!
# How far building comes

Building a suite goes through its tests entry by entry and completes a test behind its last one. It stops at
the first entry that is refused, and the log holds what the steps before that one had to tell, in the same
order. Where no entry is refused, all steps are taken, and only then the network settings are looked at
(`build_eq_of_steps`).
-/
namespace TestSelection.Suite

/-! ## Steps -/

inductive Step
  | entry (t : TestEntry) (e : MarkerEntry)
  | completed (t : TestEntry)

/-- The steps for some tests in their order. -/
def steps (tests : List TestEntry) : List Step :=
  tests.flatMap fun t => t.markers.map (.entry t) ++ [.completed t]

/-- Why a step is refused: the entry is no marker, or a strict reader does not know it. -/
def Step.failure? (strict : Bool) : Step → Option ManifestError
  | entry t e =>
    match e.marker with
    | .error source => some (.marker t.name source)
    | .ok _ => if strict ∧ ¬e.isRegistered then some (.unknownMarker t.name e.name) else none
  | completed _ => none

/-- What is told of a step that is not refused. -/
def Step.event? (classifier : Classifier) : Step → Option LogEvent
  | entry t e =>
    if e.isRegistered then none
    else some ⟨.warn, "unregistered marker, it will be ignored",
      [("test", .text t.name), ("marker", .text e.name)]⟩
  | completed t => some ⟨.debug, "collected test",
      [("test", .text t.name), ("tags", .number (classifier.classify t.path).length)]⟩

/-- The steps before the first one that is refused. -/
def taken (strict : Bool) (l : List Step) : List Step :=
  l.takeWhile fun s => (s.failure? strict).isNone

variable {α β : Type} {strict : Bool} {classifier : Classifier}

theorem taken_append_of_eq_none {l : List Step} (h : l.findSome? (Step.failure? strict) = none)
    (more : List Step) : taken strict (l ++ more) = l ++ taken strict more := by
  apply List.takeWhile_append_of_pos
  intro s hs
  rw [List.findSome?_eq_none_iff.mp h s hs]
  rfl

theorem taken_of_eq_none {l : List Step} (h : l.findSome? (Step.failure? strict) = none) :
    taken strict l = l := by
  have ht := taken_append_of_eq_none h []
  rw [List.append_nil] at ht
  exact ht.trans (List.append_nil l)

theorem taken_append_of_eq_some {l : List Step} {e : ManifestError}
    (h : l.findSome? (Step.failure? strict) = some e) (more : List Step) :
    taken strict (l ++ more) = taken strict l := by
  obtain ⟨s, hs, he⟩ := List.exists_of_findSome?_eq_some h
  rw [taken, List.takeWhile_append, if_neg]
  · rfl
  · intro hlength
    have hall := List.takeWhile_eq_self_iff.mp ((List.takeWhile_prefix _).eq_of_length hlength)
    have hnone := hall s hs
    rw [he] at hnone
    cases hnone

/-! ## Following the steps -/

/-- A part of building fails as the first refused step of a list does, and its log tells of the steps that
are taken. -/
structure Follows (strict : Bool) (classifier : Classifier) (l : List Step)
    (x : Except ManifestError α × Log) : Prop where
  failure : ∀ e, x.1 = .error e ↔ l.findSome? (Step.failure? strict) = some e
  log : x.2 = (taken strict l).filterMap (Step.event? classifier)

theorem Follows.eq_none_iff {l : List Step} {x : Except ManifestError α × Log}
    (h : Follows strict classifier l x) :
    l.findSome? (Step.failure? strict) = none ↔ ∃ a, x.1 = .ok a := by
  rw [Option.eq_none_iff_forall_ne_some]
  simp only [ne_eq, ← h.failure]
  cases x.1 <;> simp

theorem Follows.nil (a : α) : Follows strict classifier [] (.ok a, []) :=
  ⟨fun e => by simp, rfl⟩

theorem Follows.refused {s : Step} {e : ManifestError} (h : s.failure? strict = some e) :
    Follows (α := α) strict classifier [s] (.error e, []) := by
  refine ⟨fun e' => ?_, ?_⟩ <;> simp [taken, h]

theorem Follows.done {s : Step} {log : Log} (h : s.failure? strict = none)
    (hlog : (s.event? classifier).toList = log) (a : α) :
    Follows strict classifier [s] (.ok a, log) := by
  refine ⟨fun e => ?_, ?_⟩
  · simp [h]
  · rw [← hlog]
    cases hevent : s.event? classifier <;> simp [taken, h, hevent]

theorem Follows.map {l : List Step} {x : Except ManifestError α × Log}
    (h : Follows strict classifier l x) (f : α → β) : Follows strict classifier l (x.1.map f, x.2) :=
  ⟨fun e => map_eq_error_iff.trans (h.failure e), h.log⟩

theorem Follows.andThen {l more : List Step} {x : Except ManifestError α × Log}
    {f : α → Except ManifestError β × Log} (hx : Follows strict classifier l x)
    (hf : ∀ a, x.1 = .ok a → Follows strict classifier more (f a)) :
    Follows strict classifier (l ++ more) (andThen x f) := by
  rcases x with ⟨e | a, log⟩
  · have hfails := (hx.failure e).mp rfl
    refine ⟨fun e' => ?_, ?_⟩
    · rw [List.findSome?_append, hfails]
      simp [Suite.andThen]
    · rw [taken_append_of_eq_some hfails]
      exact hx.log
  · have hnone := hx.eq_none_iff.mpr ⟨a, rfl⟩
    have ha := hf a rfl
    refine ⟨fun e => ?_, ?_⟩
    · rw [List.findSome?_append, hnone]
      exact ha.failure e
    · have hlog := hx.log
      rw [taken_of_eq_none hnone] at hlog
      rw [taken_append_of_eq_none hnone, List.filterMap_append, ← ha.log, ← hlog]
      rfl

/-! ## The parts of building -/

theorem follows_readEntry (t : TestEntry) (entry : MarkerEntry) :
    Follows strict classifier [.entry t entry] (readEntry strict t.name entry) := by
  cases h : entry.marker with
  | error source =>
      have hread : readEntry strict t.name entry = (.error (.marker t.name source), []) := by
        rw [readEntry, h]
      rw [hread]
      exact .refused (by rw [Step.failure?, h])
  | ok marker =>
      have hname : marker.name = entry.name := (MarkerEntry.of_marker h).1
      have hread : readEntry strict t.name entry =
          if entry.isRegistered then (.ok marker, [])
          else if strict then (.error (.unknownMarker t.name entry.name), [])
          else (.ok marker, [ignored t.name entry.name]) := by
        rw [readEntry, h]
        simp only [hname]
        rfl
      rw [hread]
      cases hr : entry.isRegistered with
      | true => exact .done (by simp [Step.failure?, h, hr]) (by simp [Step.event?, hr]) marker
      | false =>
          cases strict with
          | true => exact .refused (by simp [Step.failure?, h, hr])
          | false => exact .done (by simp [Step.failure?, h]) (by simp [Step.event?, hr, ignored]) marker

theorem follows_attach (t : TestEntry) (item : TestItem) (hname : item.name = t.name)
    (entries : List MarkerEntry) :
    Follows strict classifier (entries.map (.entry t)) (attach strict item entries) := by
  induction entries generalizing item with
  | nil => exact .nil item
  | cons entry rest ih =>
      rw [attach_cons, hname, List.map_cons, ← List.singleton_append]
      exact (follows_readEntry t entry).andThen fun marker _ => ih (item.addMarker marker) hname

/-- The event of a test that is complete has the tags that its path is classified with. -/
theorem event?_of_attach {t : TestEntry} {item : TestItem}
    (h : (attach strict (bareItem t) t.markers).1 = .ok item) :
    (Step.completed t).event? classifier = some (collected (item.tagBy classifier)) := by
  rw [attach_fst, bind_eq_ok_iff] at h
  obtain ⟨markers, -, hitem⟩ := h
  cases pure_eq_ok_iff.mp hitem
  rw [tagBy_of_untagged _ _ rfl]
  rfl

theorem follows_collect (tests : List TestEntry) :
    Follows strict classifier (steps tests) (collect strict classifier tests) := by
  induction tests with
  | nil => exact .nil []
  | cons t rest ih =>
      rw [collect_cons, steps, List.flatMap_cons, List.append_assoc, ← steps]
      refine (follows_attach t (bareItem t) rfl t.markers).andThen fun item hitem => ?_
      have hdone : Follows strict classifier [.completed t] (.ok (), [collected (item.tagBy classifier)]) :=
        .done rfl (by rw [event?_of_attach hitem, Option.toList_some]) ()
      exact hdone.andThen fun _ _ => ih.map (item.tagBy classifier :: ·)

/-! ## The whole run -/

theorem andThen_snd_of_quiet (x : Except ManifestError α × Log) (f : α → Except ManifestError β) :
    (andThen x fun a => (f a, [])).2 = x.2 := by
  rcases x with ⟨e | a, log⟩
  · rfl
  · exact List.append_nil log

/-- The first entry that is refused decides what building fails with, whatever the network settings are, and
these are refused only when no entry is. Before it stops, building tells of each step in turn: a warning for
an entry outside the vocabulary, and for each test, behind its entries, its name and the number of its
tags. -/
theorem build_eq_of_steps (m : Manifest) (strict : Bool) :
    let failure? := Step.failure? (strict || m.settings.strictMarkers)
    let event? := Step.event? (Classifier.ofCategories m.settings.categories)
    (∀ e, (build m strict).1 = .error e ↔
      (steps m.tests).findSome? failure? = some e ∨
      (steps m.tests).findSome? failure? = none ∧
        ∃ v, validateNetwork m.settings.network = .error v ∧ e = .invalid v) ∧
    (build m strict).2 =
      ((steps m.tests).takeWhile fun s => (failure? s).isNone).filterMap event? := by
  intro failure? event?
  have h : Follows (strict || m.settings.strictMarkers)
      (Classifier.ofCategories m.settings.categories) (steps m.tests) _ := follows_collect m.tests
  rw [build_eq]
  constructor
  · intro e
    rw [andThen_fst, bind_eq_error_iff, h.failure, h.eq_none_iff]
    simp only [ofItems_eq_error_iff, exists_and_right]
    rfl
  · rw [andThen_snd_of_quiet]
    exact h.log

/-- The entry without a name stops building: the entry behind it is never read, its test is not completed,
and the ports are not counted. -/
example :
    let m : Manifest := {
      version := Manifest.knownVersion
      settings := { network := some { localPorts := [] } }
      tests := [{ name := "a", path := "/repo/tests/unit/a.py", markers := [.bare "slow"] },
        { name := "b", path := "b.py", markers := [.bare "flaky", .bare "", .bare "late"] }] }
    build m false = (.error (.marker "b" .emptyName), [ignored "a" "slow",
      ⟨.debug, "collected test", [("test", .text "a"), ("tags", .number 1)]⟩, ignored "b" "flaky"]) := by
  decide +kernel

end TestSelection.Suite
