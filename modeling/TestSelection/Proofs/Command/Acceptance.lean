import TestSelection.Proofs.Command.Machine
import TestSelection.Proofs.Suite.Item

/-!
# Manifests that the commands accept

The commands come to the same verdict on a manifest, whatever else they are asked for and whatever the host
answers. Those that need a suite accept the manifests whose suite can be built, those that can do without a
manifest accept what can be read or does not seem to be there (`commands_agree`). A manifest that is there
but cannot be reached seems not to be there, so the two kinds differ on it (`classify_selfLinks`).
-/
namespace TestSelection.Command

/-- What a file comes to can be read as a manifest whose suite can be built. -/
def Builds (vars : Variables) (content : Except FileError String) (strict : Bool) : Prop :=
  ∃ m suite, Manifest.ofContent vars content = .ok m ∧ (Suite.build m strict).1 = .ok suite

/-- No file seems to be there, or what it comes to can be read as a manifest. -/
def Loads (vars : Variables) (present : Bool) (content : Except FileError String) : Prop :=
  present = false ∨ ∃ m, Manifest.ofContent vars content = .ok m

variable {σ : Type} {machine : Machine (StateM σ)} {path : String} {present : Bool}
  {content : Except FileError String} {vars : Variables}

theorem builds_iff {m : Manifest} (hm : Manifest.ofContent vars content = .ok m) {strict : Bool} :
    Builds vars content strict ↔ ∃ suite, (Suite.build m strict).1 = .ok suite := by
  constructor
  · rintro ⟨m', suite, hm', hs⟩
    cases Except.ok.inj (hm.symm.trans hm')
    exact ⟨suite, hs⟩
  · rintro ⟨suite, hs⟩
    exact ⟨m, suite, hm, hs⟩

theorem Builds.loads {strict : Bool} (h : Builds vars content strict) : Loads vars present content := by
  obtain ⟨m, _, hm, -⟩ := h
  exact .inr ⟨m, hm⟩

theorem loads_iff (path : String) :
    Loads vars present content ↔ ∃ m, optionalManifest vars path present content = .ok m := by
  unfold Loads optionalManifest
  cases present with
  | false => simp
  | true => cases Manifest.ofContent vars content <;> simp

/-! ## The verdict of each command -/

theorem yields_validate (h : machine.Reads path content) (strict : Bool) :
    Yields (fun o => (o.succeeds = true ↔ Builds machine.vars content strict) ∧
        (o.succeeds = false → o.lines = ["Validating " ++ path ++ "..."]))
      (validate machine path strict) := by
  unfold validate Builds
  refine h.yields_readManifest.bind fun m hm => ?_
  rw [← hm]
  cases m with
  | error e => exact .pure ⟨by simp [Outcome.succeeds], fun _ => rfl⟩
  | ok m =>
      rcases hb : Suite.build m strict with ⟨result, log⟩
      simp only [hb]
      refine .after _ fun _ => ?_
      cases result with
      | error e => exact .pure ⟨by simp [Outcome.succeeds, hb], fun _ => rfl⟩
      | ok suite => exact .pure ⟨by simp [Outcome.succeeds, hb], nofun⟩

theorem yields_evaluate (h : machine.Reads path content) (flags : RunConfiguration)
    (tag : Option String) (format : String) :
    Yields (fun o => (o.succeeds = true ↔
          (Format.parse? format).isSome ∧ Builds machine.vars content false) ∧
        (o.succeeds = false → o.lines = []))
      (evaluate machine path flags tag format) := by
  unfold evaluate Builds
  cases Format.parse? format with
  | none => exact .pure ⟨by simp [Outcome.succeeds], fun _ => rfl⟩
  | some f =>
      refine h.yields_readManifest.bind fun m hm => ?_
      rw [← hm]
      cases m with
      | error e => exact .pure ⟨by simp [Outcome.succeeds], fun _ => rfl⟩
      | ok m =>
          rcases hb : Suite.build m false with ⟨result, log⟩
          simp only [hb]
          refine .after _ fun _ => ?_
          cases result with
          | error e => exact .pure ⟨by simp [Outcome.succeeds, hb], fun _ => rfl⟩
          | ok suite => exact .after _ fun _ => .pure ⟨by simp [Outcome.succeeds, hb], nofun⟩

theorem yields_classify (h : machine.Shows path present content) (paths : List String) :
    Yields (fun o => o.succeeds = true ↔ Loads machine.vars present content)
      (classify machine path paths) := by
  rw [loads_iff path]
  refine (yields_readOptionalManifest h).bind fun m hm => ?_
  cases m with
  | error failure => exact .pure (by simp [Outcome.succeeds, ← hm])
  | ok m => exact .pure (by simp [Outcome.succeeds, ← hm])

theorem yields_probe (h : machine.Shows path present content) (format : String) :
    Yields (fun o => o.succeeds = true ↔
        (Format.parse? format).isSome ∧ Loads machine.vars present content)
      (probe machine path format) := by
  unfold probe
  rw [loads_iff path]
  cases Format.parse? format with
  | none => exact .pure (by simp [Outcome.succeeds])
  | some f =>
      have hread := yields_readOptionalManifest h
      refine (hread.and (yields_readOptionalManifest_isValid machine path)).bind fun m hm => ?_
      obtain ⟨hm, -, hvalid⟩ := hm
      cases m with
      | error failure => exact .pure (by simp [Outcome.succeeds, ← hm])
      | ok m =>
          obtain ⟨probes, hp⟩ := exists_ofNetwork_of_isValid (hvalid m rfl)
          dsimp only
          rw [hp]
          exact .after _ fun _ => .pure (by simp [Outcome.succeeds, ← hm])

/-! ## Exit codes -/

theorem exitCode_eq_zero_iff {o : Outcome} : o.exitCode = 0 ↔ o.succeeds = true := by
  unfold Outcome.exitCode
  cases o.succeeds <;> simp

theorem exitCode_ne_zero_iff {o : Outcome} : o.exitCode ≠ 0 ↔ o.succeeds = false := by
  rw [ne_eq, exitCode_eq_zero_iff, Bool.not_eq_true]

theorem parse?_isSome_iff {format : String} :
    (Format.parse? format).isSome = true ↔ format ∈ ["table", "json"] := by
  unfold Format.parse?
  split
  · simp [*]
  · split <;> simp [*]

theorem exitCode_validate (h : machine.Reads path content) (strict : Bool) (s : σ) :
    (outcome machine path (.validate strict) s).exitCode = 0 ↔ Builds machine.vars content strict :=
  exitCode_eq_zero_iff.trans (yields_validate h strict s).1

theorem exitCode_evaluate (h : machine.Reads path content) (flags : RunConfiguration)
    (tag : Option String) (format : String) (s : σ) :
    (outcome machine path (.evaluate flags tag format) s).exitCode = 0 ↔
      format ∈ ["table", "json"] ∧ Builds machine.vars content false := by
  rw [exitCode_eq_zero_iff, ← parse?_isSome_iff]
  exact (yields_evaluate h flags tag format s).1

theorem exitCode_classify (h : machine.Shows path present content) (paths : List String) (s : σ) :
    (outcome machine path (.classify paths) s).exitCode = 0 ↔ Loads machine.vars present content :=
  exitCode_eq_zero_iff.trans (yields_classify h paths s)

theorem exitCode_probe (h : machine.Shows path present content) (format : String) (s : σ) :
    (outcome machine path (.probe format) s).exitCode = 0 ↔
      format ∈ ["table", "json"] ∧ Loads machine.vars present content := by
  rw [exitCode_eq_zero_iff, ← parse?_isSome_iff]
  exact yields_probe h format s

theorem output_evaluate (h : machine.Reads path content) {flags : RunConfiguration}
    {tag : Option String} {format : String} {s : σ}
    (hs : (outcome machine path (.evaluate flags tag format) s).exitCode ≠ 0) :
    (outcome machine path (.evaluate flags tag format) s).output = "" := by
  have hlines : (outcome machine path (.evaluate flags tag format) s).lines = [] :=
    (yields_evaluate h flags tag format s).2 (exitCode_ne_zero_iff.mp hs)
  rw [Outcome.output, hlines]
  rfl

theorem lines_validate (h : machine.Reads path content) {strict : Bool} {s : σ}
    (hs : (outcome machine path (.validate strict) s).exitCode ≠ 0) :
    (outcome machine path (.validate strict) s).lines = ["Validating " ++ path ++ "..."] :=
  (yields_validate h strict s).2 (exitCode_ne_zero_iff.mp hs)

/-- The commands agree on a manifest, whatever the state each of them starts from. Validating it succeeds
where evaluating it does, in either format, with any flags and for any tag, and a strict validation
succeeds only where a lenient one does. Classifying and probing succeed where the manifest can be read or
does not seem to be there, so they succeed where it is validated. An evaluation that fails prints nothing,
and a validation that fails does not call the manifest valid. -/
theorem commands_agree (h : machine.Shows path present content) :
    (∀ flags tag, ∀ format ∈ ["table", "json"], ∀ s s',
      (outcome machine path (.validate false) s).exitCode = 0 ↔
        (outcome machine path (.evaluate flags tag format) s').exitCode = 0) ∧
    (∀ s s', (outcome machine path (.validate true) s).exitCode = 0 →
      (outcome machine path (.validate false) s').exitCode = 0) ∧
    (∀ paths s, (outcome machine path (.classify paths) s).exitCode = 0 ↔
      Loads machine.vars present content) ∧
    (∀ format ∈ ["table", "json"], ∀ s, (outcome machine path (.probe format) s).exitCode = 0 ↔
      Loads machine.vars present content) ∧
    (∀ strict s, (outcome machine path (.validate strict) s).exitCode = 0 →
      (∀ paths s', (outcome machine path (.classify paths) s').exitCode = 0) ∧
      ∀ format ∈ ["table", "json"], ∀ s', (outcome machine path (.probe format) s').exitCode = 0) ∧
    (∀ flags tag format s, (outcome machine path (.evaluate flags tag format) s).exitCode ≠ 0 →
      (outcome machine path (.evaluate flags tag format) s).output = "") ∧
    ∀ strict s, (outcome machine path (.validate strict) s).exitCode ≠ 0 →
      "✓ Manifest valid" ∉ (outcome machine path (.validate strict) s).lines := by
  refine ⟨?_, ?_, exitCode_classify h, ?_, ?_, fun _ _ _ _ => output_evaluate h.reads, ?_⟩
  · intro flags tag format hf s s'
    rw [exitCode_validate h.reads, exitCode_evaluate h.reads]
    exact (and_iff_right hf).symm
  · -- Strictness only refuses: the suite of a strict run is that of a lenient one.
    intro s s' hs
    rw [exitCode_validate h.reads] at hs ⊢
    obtain ⟨m, suite, hm, hsuite⟩ := hs
    exact ⟨m, suite, hm, Suite.build_lenient_of_build_strict hsuite⟩
  · intro format hf s
    rw [exitCode_probe h]
    exact and_iff_right hf
  · intro strict s hs
    have hloads : Loads machine.vars present content :=
      ((exitCode_validate h.reads strict s).mp hs).loads
    exact ⟨fun paths s' => (exitCode_classify h paths s').mpr hloads,
      fun format hf s' => (exitCode_probe h format s').mpr ⟨hf, hloads⟩⟩
  · intro strict s hs
    -- All that is printed by then is the line that names the file, whatever its name is.
    rw [lines_validate h.reads hs, List.mem_singleton, String.append_assoc]
    exact (append_ne_of_take (by decide)).symm

/-- A manifest that a lenient validation accepts and a strict one refuses. -/
def slowTestText : String :=
  "version: 1.0\ntests: [{name: a, path: b, markers: [slow]}]\n"

theorem commands_agree_slowTest :
    let w := World.holding slowTestText
    w.machine.Shows defaultManifest true (.ok slowTestText) ∧ (w.run ["validate"]).exitCode = 0 ∧
      (w.run ["evaluate", "--format", "json"]).exitCode = 0 ∧
      (w.run ["classify", "a/unit/b"]).exitCode = 0 ∧
      (w.run ["validate", "--strict"]).exitCode ≠ 0 ∧
      "✓ Manifest valid" ∉
        (outcome w.machine defaultManifest (.validate true) []).lines := by
  intro w
  have hshows : w.machine.Shows defaultManifest true (.ok slowTestText) :=
    World.shows_holding slowTestText
  obtain ⟨hevaluate, -, -, -, hload, -, hline⟩ := commands_agree hshows
  have hbuilt : ((Manifest.ofText w.vars slowTestText).toOption.map fun m =>
      ((Suite.build m false).1.toOption.isSome, (Suite.build m true).1.toOption.isSome)) =
      some (true, false) := by
    decide +kernel
  obtain ⟨m, hm, hbuilt⟩ := Option.map_eq_some_iff.mp hbuilt
  replace hm : Manifest.ofContent w.machine.vars (.ok slowTestText) = .ok m :=
    toOption_eq_some_iff.mp hm
  obtain ⟨hlenient, hstrict⟩ := Prod.mk.inj hbuilt
  obtain ⟨suite, hsuite⟩ := Option.isSome_iff_exists.mp hlenient
  have hvalid : (outcome w.machine defaultManifest (.validate false) []).exitCode = 0 :=
    (exitCode_validate hshows.reads _ _).mpr
      ((builds_iff hm).mpr ⟨suite, toOption_eq_some_iff.mp hsuite⟩)
  have hrefused : (outcome w.machine defaultManifest (.validate true) []).exitCode ≠ 0 := by
    rw [ne_eq, exitCode_validate hshows.reads, builds_iff hm]
    rintro ⟨suite', hs'⟩
    rw [toOption_eq_some_iff.mpr hs'] at hstrict
    cases hstrict
  refine ⟨hshows, ?_, ?_, ?_, ?_, hline true [] hrefused⟩
  · rwa [(World.run_eq rfl).1]
  · rw [(World.run_eq rfl).1]
    exact (hevaluate _ _ "json" (by decide) [] []).mp hvalid
  · rw [(World.run_eq rfl).1]
    exact (hload false [] hvalid).1 _ []
  · rwa [(World.run_eq rfl).1]

/-- A manifest of a version that is not known. -/
def laterText : String :=
  "version: \"2.0\"\n"

/-- The directory holds a manifest and a link to itself. Under its own name the manifest is refused, but
behind more links than may be followed it seems not to be there, though that is where they lead. Then
classifying and probing succeed, and the commands that need a manifest fail. -/
theorem classify_selfLinks :
    let w : World :=
      { files := .directory [("s", .link "."), (defaultManifest, .file 0o644 laterText)] }
    let path := String.join (List.replicate 50 "s/") ++ defaultManifest
    w.files.follow 50 (.inside []) (FileTree.names path) = .ok (.file 0o644 laterText) ∧
      (∀ m, Manifest.ofText w.vars laterText ≠ .ok m) ∧
      (outcome w.machine defaultManifest (.classify ["t/unit/a"]) []).exitCode ≠ 0 ∧
      (outcome w.machine path (.classify ["t/unit/a"]) []).exitCode = 0 ∧
      (outcome w.machine path (.probe "json") []).exitCode = 0 ∧
      (outcome w.machine path (.validate false) []).exitCode ≠ 0 ∧
      (outcome w.machine path (.evaluate {} none "json") []).exitCode ≠ 0 := by
  intro w path
  have hlater : ∀ m, Manifest.ofText w.vars laterText ≠ .ok m := by
    have hnone : (Manifest.ofText w.vars laterText).toOption = none := by decide +kernel
    intro m hm
    rw [hm] at hnone
    cases hnone
  have hnames : FileTree.names path = List.replicate 50 "s" ++ [defaultManifest] := by
    decide +kernel
  have hstart : FileTree.Place.start (.inside []) path = .inside [] := by
    rw [FileTree.Place.start, if_neg (by decide +kernel)]
  have hlink : [("s", FileTree.link "."), (defaultManifest, .file 0o644 laterText)].lookup "s" =
      some (.link ".") := rfl
  have hlinks := FileTree.follow_selfLinks hlink (by decide) (by decide)
  have hresolve : w.files.resolve path = .error .tooManyLinks := by
    rw [FileTree.resolve, if_neg (by decide +kernel), if_neg (by decide +kernel),
      if_neg (by decide +kernel), hstart, hnames]
    -- Forty links are followed, and the next one is one too many.
    refine (hlinks 40 0 ("s" :: (List.replicate 9 "s" ++ [defaultManifest]))).trans ?_
    exact FileTree.follow_selfLink hlink (by decide) (by decide) 0 _
  have hfar : w.machine.Shows path false (.error .tooManyLinks) := by
    have h := w.shows path
    rwa [FileTree.hasPath, FileTree.read, hresolve] at h
  have hnear : w.machine.Shows defaultManifest true (.ok laterText) :=
    World.shows_of_read
      (FileTree.read_of_lookup rfl (by decide) (by decide) (by decide) (by decide))
  have hnotBuilds : ¬Builds w.vars (.error .tooManyLinks) false := by
    rintro ⟨m, _, hm, -⟩
    cases hm
  refine ⟨?_, hlater, ?_, ?_, ?_, ?_, ?_⟩
  · rw [hnames]
    exact (hlinks 50 0 [defaultManifest]).trans (FileTree.follow_file rfl (by decide) (by decide) 0)
  · rw [ne_eq, exitCode_classify hnear]
    rintro (h | ⟨m, hm⟩)
    · cases h
    · exact hlater m hm
  · exact (exitCode_classify hfar _ _).mpr (.inl rfl)
  · exact (exitCode_probe hfar _ _).mpr ⟨by decide, .inl rfl⟩
  · rw [ne_eq, exitCode_validate hfar.reads]
    exact hnotBuilds
  · rw [ne_eq, exitCode_evaluate hfar.reads]
    exact fun h => hnotBuilds h.2

end TestSelection.Command
