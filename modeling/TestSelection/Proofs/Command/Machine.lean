import TestSelection.Command.Run
import TestSelection.Proofs.Host.FileSystem
import TestSelection.Proofs.Manifest.Validation

/-!
# Commands on a machine

A command is run on a machine with a state of any kind, so its user, its binaries, its sockets and its
log may answer differently each time. Only what the machine shows at the path of the manifest stays as it
is. What is said of an outcome holds from whatever state the command starts.
-/
namespace TestSelection.Command

variable {σ α β : Type}

/-! ## What a program gives -/

/-- What a program gives meets a condition, whatever the state it starts from. -/
def Yields (p : α → Prop) (x : StateM σ α) : Prop :=
  ∀ s, p (x.run s).1

theorem Yields.pure {p : α → Prop} {a : α} (h : p a) : Yields (σ := σ) p (pure a) :=
  fun _ => h

theorem Yields.bind {p : α → Prop} {q : β → Prop} {x : StateM σ α} {f : α → StateM σ β}
    (hx : Yields p x) (hf : ∀ a, p a → Yields q (f a)) : Yields q (x >>= f) :=
  fun s => hf _ (hx s) _

theorem Yields.and {p q : α → Prop} {x : StateM σ α} (hp : Yields p x) (hq : Yields q x) :
    Yields (fun a => p a ∧ q a) x :=
  fun s => ⟨hp s, hq s⟩

/-- A step is passed over where all that may follow meets the condition. -/
theorem Yields.after {q : β → Prop} (x : StateM σ α) {f : α → StateM σ β}
    (hf : ∀ a, Yields q (f a)) : Yields q (x >>= f) :=
  fun _ => hf _ _

/-! ## What a machine shows -/

/-- Reading a path comes to some content, whenever it is read. -/
def Machine.Reads (machine : Machine (StateM σ)) (path : String) (content : Except FileError String) :
    Prop :=
  Yields (· = content) (machine.readFile path)

/-- What a machine shows at a path, whenever it is looked at: whether something seems to be there, and
what reading comes to. Neither tells the other: behind a directory that may not be searched nothing seems
to be there, and what is there may not be readable. -/
structure Machine.Shows (machine : Machine (StateM σ)) (path : String) (present : Bool)
    (content : Except FileError String) : Prop where
  hasPath : Yields (· = present) (machine.hasPath path)
  reads : machine.Reads path content

theorem World.shows (w : World) (path : String) :
    w.machine.Shows path (w.files.hasPath path) (w.files.read path) :=
  ⟨fun _ => rfl, fun _ => rfl⟩

theorem World.shows_of_read {w : World} {path text : String} (h : w.files.read path = .ok text) :
    w.machine.Shows path true (.ok text) := by
  have hshows := w.shows path
  rwa [h, FileTree.hasPath_of_read h] at hshows

/-- A world with nothing but a manifest where commands look for it. -/
def World.holding (text : String) : World where
  files := .directory [(defaultManifest, .file 0o644 text)]

theorem World.read_holding (text : String) : (holding text).files.read defaultManifest = .ok text :=
  FileTree.read_of_lookup rfl (by decide) (by decide) (by decide) (by decide)

theorem World.shows_holding (text : String) :
    (holding text).machine.Shows defaultManifest true (.ok text) :=
  shows_of_read (read_holding text)

end Command

/-- The manifest in what reading a file comes to. -/
def Manifest.ofContent (vars : Variables) : Except FileError String → Except ManifestError Manifest
  | .error e => .error (.unreadable e)
  | .ok text => ofText vars text

theorem exists_ofNetwork_of_isValid {content : Option Manifest} (h : ∀ m ∈ content, m.IsValid) :
    ∃ probes, ProbeSettings.ofNetwork (content.bind (·.settings.network)) = .ok probes := by
  refine exists_ofNetwork_eq_ok ?_
  cases content with
  | none => rfl
  | some m => exact validateNetwork_eq_ok_iff.mpr (h m rfl).network

namespace Command

variable {machine : Machine (StateM σ)} {path : String} {present : Bool}
  {content : Except FileError String}

theorem Machine.Reads.yields_readManifest (h : machine.Reads path content) :
    Yields (· = Manifest.ofContent machine.vars content) (machine.readManifest path) := by
  refine Yields.bind h fun text ht => ?_
  rw [← ht]
  cases text <;> exact .pure rfl

/-- What a command starts from that can do without a manifest. -/
def optionalManifest (vars : Variables) (path : String) (present : Bool)
    (content : Except FileError String) : Except Failure (Option Manifest) :=
  if present then
    match Manifest.ofContent vars content with
    | .error e => .error (.ofManifest ("Failed to parse manifest " ++ path) e)
    | .ok m => .ok (some m)
  else .ok none

theorem yields_readOptionalManifest (h : machine.Shows path present content) :
    Yields (· = optionalManifest machine.vars path present content)
      (readOptionalManifest machine path) := by
  refine h.hasPath.bind fun found hfound => ?_
  rw [← hfound, optionalManifest]
  cases found with
  | false => exact .after _ fun _ => .pure rfl
  | true =>
      refine h.reads.yields_readManifest.bind fun m hm => ?_
      rw [← hm]
      cases m <;> exact .pure rfl

/-! ## What is read is valid -/

theorem yields_readManifest_isValid (machine : Machine (StateM σ)) (path : String) :
    Yields (fun r => ∀ m, r = .ok m → m.IsValid) (machine.readManifest path) := by
  refine .after _ fun text => ?_
  cases text with
  | error e => exact .pure nofun
  | ok text => exact .pure fun m hm => Manifest.isValid_of_readWith hm

/-- What a command starts from that can do without a manifest is valid, on any machine. -/
theorem yields_readOptionalManifest_isValid (machine : Machine (StateM σ)) (path : String) :
    Yields (fun r => (∀ failure, r = .error failure →
          failure.context = "Failed to parse manifest " ++ path) ∧
        ∀ content, r = .ok content → ∀ m ∈ content, m.IsValid)
      (readOptionalManifest machine path) := by
  refine .after _ fun present => ?_
  cases present with
  | false =>
      refine .after _ fun _ => .pure ⟨nofun, fun content hc => ?_⟩
      cases hc
      nofun
  | true =>
      refine (yields_readManifest_isValid machine path).bind fun content hvalid => ?_
      cases content with
      | error e =>
          refine .pure ⟨fun failure hf => ?_, nofun⟩
          cases hf
          rfl
      | ok m =>
          refine .pure ⟨nofun, fun content hc => ?_⟩
          cases hc
          rintro m' ⟨⟩
          exact hvalid m rfl

/-- Probing fails for the word of the format or for a manifest that cannot be read, and for no other
reason. -/
theorem yields_probe_context (machine : Machine (StateM σ)) (path format : String) :
    Yields (fun o => ∀ failure ∈ o.failure,
        failure.context ∈ [(Format.unknown format).context, "Failed to parse manifest " ++ path])
      (probe machine path format) := by
  unfold probe
  cases Format.parse? format with
  | none =>
      refine .pure ?_
      rintro failure ⟨⟩
      exact List.mem_cons_self
  | some f =>
      refine (yields_readOptionalManifest_isValid machine path).bind fun content hc => ?_
      cases content with
      | error failure =>
          refine .pure ?_
          rintro failure' ⟨⟩
          simp [hc.1 failure rfl]
      | ok content =>
          -- What was read is valid, so its settings are not refused a second time.
          obtain ⟨probes, hp⟩ := exists_ofNetwork_of_isValid (hc.2 content rfl)
          dsimp only
          rw [hp]
          exact .after _ fun _ => .pure nofun

/-! ## Texts of outcomes -/

/-- What a text begins with tells it from others, whatever comes behind. -/
theorem append_ne_of_take {lead rest text : String}
    (h : text.toList.take lead.toList.length ≠ lead.toList) : lead ++ rest ≠ text := by
  rintro rfl
  rw [String.toList_append, List.take_left] at h
  exact h rfl

theorem Format.context_unknown (word : String) : (unknown word).context =
    "Invalid format: " ++ (word ++ ". Must be 'table' or 'json'") :=
  String.append_assoc

/-! ## Outcomes -/

/-- The outcome of an action on the manifest at a path. -/
def outcome (machine : Machine (StateM σ)) (path : String) (action : Action) (s : σ) : Outcome :=
  ((action.run machine path).run s).1

/-- The outcome of classifying paths by the categories of a manifest. -/
def classified (paths : List String) : Except Failure (Option Manifest) → Outcome
  | .error failure => { failure := some failure }
  | .ok content =>
    let classifier := Classifier.ofCategories (content.bind (·.settings.categories))
    { lines := paths.map (classifiedLine classifier) }

theorem outcome_classify (h : machine.Shows path present content) (paths : List String) (s : σ) :
    outcome machine path (.classify paths) s =
      classified paths (optionalManifest machine.vars path present content) := by
  have hy : Yields (· = classified paths (optionalManifest machine.vars path present content))
      (classify machine path paths) := by
    refine (yields_readOptionalManifest h).bind fun m hm => ?_
    rw [← hm]
    cases m with
    | error failure => exact .pure rfl
    | ok m => exact .pure rfl
  exact hy s

/-- A command line that asks for an action leaves the exit code and the output of its outcome. -/
theorem World.run_eq {w : World} {words : List String} {invocation : Invocation}
    (h : Invocation.ofArguments words = .ok invocation) :
    (w.run words).exitCode =
        (outcome w.machine invocation.manifest invocation.action []).exitCode ∧
      (w.run words).output = (outcome w.machine invocation.manifest invocation.action []).output := by
  unfold run
  rw [h]
  exact ⟨rfl, rfl⟩

end Command

end TestSelection
