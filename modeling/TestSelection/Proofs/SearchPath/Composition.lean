import TestSelection.Command.Machine
import TestSelection.Proofs.Host.FileSystem

/-!
# Search paths put together

A binary is looked for name by name and each name directory by directory. Where the files stay as they
are, a longer search path or a longer list of names means one search behind another, and the names come
before the directories (`which_append`).
-/
namespace TestSelection

variable {m : Type → Type} [Monad m]

/-- A machine that executes the programs of a file system and has a search path. -/
def Command.Machine.searching (machine : Machine m) (fs : FileSystem) (searchPath : Option String) :
    Machine m :=
  { machine with
    isExecutable := fun path => return fs.isExecutable path
    vars := fun name => if name = searchPathName then searchPath else machine.vars name }

/-- The machine of a world is such a machine. -/
theorem Command.World.searching_machine (w : World) :
    w.machine.searching w.files.fileSystem (w.vars Machine.searchPathName) = w.machine := by
  have hvars : (fun name => if name = Machine.searchPathName then w.vars Machine.searchPathName
      else w.vars name) = w.vars := by
    funext name
    split
    · next h => rw [h]
    · rfl
  simp only [Machine.searching, machine, FileTree.isExecutable_fileSystem, hvars]

namespace SearchPath

/-- What one search finds, else what another one finds, which starts only then. -/
def orSearch (search other : m (Option String)) : m (Option String) := do
  match ← search with
  | some path => return some path
  | none => other

/-- A search has a result without doing anything else, and what it finds is a program. -/
def FindsProgram (fs : FileSystem) (search : m (Option String)) : Prop :=
  ∃ found, search = pure found ∧ ∀ path ∈ found, fs.IsProgram path

theorem whichAny_cons (host : HostEnvironment m) (name : String) (names : List String) :
    host.whichAny (name :: names) = orSearch (host.which name) (host.whichAny names) :=
  rfl

section Lawful

variable [LawfulMonad m]

theorem orSearch_pure (found : Option String) (other : m (Option String)) :
    orSearch (pure found) other = match found with
      | some path => pure (some path)
      | none => other := by
  rw [orSearch, pure_bind]

theorem orSearch_pure_pure (found other : Option String) :
    orSearch (pure found) (pure other : m (Option String)) = pure (found.or other) := by
  rw [orSearch_pure]
  cases found <;> rfl

theorem orSearch_assoc (first second third : m (Option String)) :
    orSearch (orSearch first second) third = orSearch first (orSearch second third) := by
  unfold orSearch
  rw [bind_assoc]
  congr 1
  funext found
  cases found with
  | none => rfl
  | some path => rw [pure_bind]

/-! ## Directories -/

theorem directories_append (dirs more : String) :
    directories (dirs ++ ":" ++ more) = directories dirs ++ directories more := by
  have hlist : (dirs ++ ":" ++ more).toList = dirs.toList ++ ':' :: more.toList := by
    simp [String.toList_append]
  rw [directories, Text.split, hlist, Text.splitChars_append, List.map_append]
  rfl

theorem firstExecutable_pure (p : String → Bool) (paths : List String) :
    firstExecutable (fun path => (pure (p path) : m Bool)) paths = pure (paths.find? p) := by
  induction paths with
  | nil => rfl
  | cons path rest ih =>
      rw [firstExecutable, pure_bind, List.find?_cons]
      cases p path with
      | true => rfl
      | false => exact ih

/-- The first program among the paths at which a name is looked for. -/
def program? (fs : FileSystem) (searchPath : Option String) (name : String) : Option String :=
  (candidates searchPath name).find? fs.isExecutable

theorem isProgram_of_program? {fs : FileSystem} {searchPath : Option String} {name path : String}
    (h : program? fs searchPath name = some path) : fs.IsProgram path :=
  (fs.isExecutable_iff path).mp (List.find?_some h)

theorem program?_append (fs : FileSystem) (dirs more name : String) :
    program? fs (some (dirs ++ ":" ++ more)) name =
      (program? fs (some dirs) name).or (program? fs (some more) name) := by
  unfold program? candidates
  split
  · rfl
  split
  · -- A name that is looked for as it stands is looked for twice at the same place.
    exact Option.or_self.symm
  · simp only [directories_append, List.map_append, List.find?_append]

theorem which_searching (machine : Command.Machine m) (fs : FileSystem) (searchPath : Option String)
    (probes : ProbeSettings) (name : String) :
    ((machine.searching fs searchPath).host probes).which name =
      pure (program? fs searchPath name) := by
  have hvars : (machine.searching fs searchPath).vars Command.Machine.searchPathName = searchPath := by
    simp only [Command.Machine.searching, ↓reduceIte]
  rw [Command.Machine.host, hvars]
  exact firstExecutable_pure fs.isExecutable _

/-! ## Names -/

theorem whichAny_append (host : HostEnvironment m) (names others : List String) :
    host.whichAny (names ++ others) = orSearch (host.whichAny names) (host.whichAny others) := by
  induction names with
  | nil => exact (orSearch_pure none _).symm
  | cons name rest ih => rw [List.cons_append, whichAny_cons, ih, whichAny_cons, orSearch_assoc]

theorem findsProgram_which (machine : Command.Machine m) (fs : FileSystem)
    (searchPath : Option String) (probes : ProbeSettings) (name : String) :
    FindsProgram fs (((machine.searching fs searchPath).host probes).which name) :=
  ⟨_, which_searching machine fs searchPath probes name, fun _ => isProgram_of_program?⟩

theorem FindsProgram.orSearch {fs : FileSystem} {search other : m (Option String)}
    (hs : FindsProgram fs search) (ho : FindsProgram fs other) :
    FindsProgram fs (orSearch search other) := by
  obtain ⟨found, rfl, hfound⟩ := hs
  obtain ⟨found', rfl, hfound'⟩ := ho
  refine ⟨_, orSearch_pure_pure found found', fun path hpath => ?_⟩
  rcases Option.or_eq_some_iff.mp hpath with h | ⟨-, h⟩
  · exact hfound path h
  · exact hfound' path h

theorem findsProgram_whichAny {fs : FileSystem} {host : HostEnvironment m}
    (h : ∀ name, FindsProgram fs (host.which name)) (names : List String) :
    FindsProgram fs (host.whichAny names) := by
  induction names with
  | nil => exact ⟨none, rfl, nofun⟩
  | cons name rest ih => exact (h name).orSearch ih

/-- On any machine whose files stay as they are, looking for a name in two search paths put together is
looking in the first and, if it is not there, in the second, whatever the name is and even where a
search path is empty. Looking for the names of two lists is looking for those of the first and then for
those of the second, so a name is looked for in all directories before the next name is. What is found
is a program. -/
theorem which_append (machine : Command.Machine m) (fs : FileSystem) (probes : ProbeSettings)
    (dirs more : String) :
    let host (searchPath : Option String) := (machine.searching fs searchPath).host probes
    let both := host (some (dirs ++ ":" ++ more))
    (∀ name, both.which name =
      orSearch ((host (some dirs)).which name) ((host (some more)).which name)) ∧
    (∀ searchPath names others, (host searchPath).whichAny (names ++ others) =
      orSearch ((host searchPath).whichAny names) ((host searchPath).whichAny others)) ∧
    (∀ name others, both.whichAny (name :: others) =
      orSearch ((host (some dirs)).which name)
        (orSearch ((host (some more)).which name) (both.whichAny others))) ∧
    (∀ searchPath name, FindsProgram fs ((host searchPath).which name)) ∧
    ∀ searchPath names, FindsProgram fs ((host searchPath).whichAny names) := by
  intro host both
  have hwhich (name : String) : both.which name =
      orSearch ((host (some dirs)).which name) ((host (some more)).which name) := by
    simp only [both, host, which_searching, program?_append, orSearch_pure_pure]
  have hfinds (searchPath : Option String) (name : String) :
      FindsProgram fs ((host searchPath).which name) :=
    findsProgram_which machine fs searchPath probes name
  refine ⟨hwhich, fun searchPath => whichAny_append (host searchPath), fun name others => ?_, hfinds,
    fun searchPath => findsProgram_whichAny (hfinds searchPath)⟩
  rw [whichAny_cons, hwhich, orSearch_assoc]

end Lawful

/-- A world with a program in each of the two directories of its search path. -/
def workshop : Command.World where
  files := .directory [
    ("a", .directory [("sh", .file 0o755 "")]),
    ("b", .directory [("cc", .file 0o755 "")])]
  vars := fun _ => some "a:b"

theorem isExecutable_workshop : workshop.files.isExecutable "a/sh" ∧
    workshop.files.isExecutable "b/cc" ∧ ¬workshop.files.isExecutable "a/cc" := by
  have hnames : FileTree.names "a/sh" = ["a", "sh"] ∧ FileTree.names "b/cc" = ["b", "cc"] ∧
      FileTree.names "a/cc" = ["a", "cc"] := by decide
  have hpaths : ∀ path ∈ ["a/sh", "b/cc", "a/cc"], ¬FileTree.pathLimit < path.utf8ByteSize := by
    decide
  have hsizes : ∀ name ∈ ["a", "b", "sh", "cc"], ¬FileTree.nameLimit < name.utf8ByteSize := by
    decide
  simp only [List.forall_mem_cons, List.not_mem_nil, false_imp_iff, implies_true, and_true]
    at hpaths hsizes
  simp [workshop, FileTree.isExecutable, FileTree.resolve, FileTree.Place.start, hnames, hpaths,
    FileTree.follow, FileTree.nodeAt, FileTree.at?, List.lookup_cons, hsizes,
    FileTree.isExecutableMode]

theorem program?_workshop (searchPath : Option String) (name : String) :
    program? workshop.files.fileSystem searchPath name =
      (candidates searchPath name).find? workshop.files.isExecutable := by
  rw [program?, FileTree.isExecutable_fileSystem]

/-- The first name is in the second directory and the second name in the first one. -/
theorem which_append_workshop :
    let fs := workshop.files.fileSystem
    let host (dirs : String) := (workshop.machine.searching fs (some dirs)).host .standard
    (host "a").which "cc" = pure none ∧
      (host "a").which "sh" = pure (some "a/sh") ∧
      (host "b").which "cc" = pure (some "b/cc") ∧
      (workshop.machine.host .standard).whichAny ["cc", "sh"] = pure (some "b/cc") ∧
      fs.IsProgram "b/cc" := by
  intro fs host
  obtain ⟨hash, hbcc, hacc⟩ := isExecutable_workshop
  have hat (dirs name : String) : (host dirs).which name =
      pure ((candidates (some dirs) name).find? workshop.files.isExecutable) := by
    rw [← program?_workshop]
    exact which_searching workshop.machine fs (some dirs) .standard name
  have hnear : (host "a").which "cc" = pure none := by
    have hc : candidates (some "a") "cc" = ["a/cc"] := by decide
    rw [hat, hc, List.find?_cons_of_neg hacc, List.find?_nil]
  have hsh : (host "a").which "sh" = pure (some "a/sh") := by
    have hc : candidates (some "a") "sh" = ["a/sh"] := by decide
    rw [hat, hc, List.find?_cons_of_pos hash]
  have hfar : (host "b").which "cc" = pure (some "b/cc") := by
    have hc : candidates (some "b") "cc" = ["b/cc"] := by decide
    rw [hat, hc, List.find?_cons_of_pos hbcc]
  have hworld : host ("a" ++ ":" ++ "b") = workshop.machine.host .standard :=
    congrArg (Command.Machine.host · .standard) workshop.searching_machine
  obtain ⟨-, -, hany, hprogram, -⟩ := which_append workshop.machine fs .standard "a" "b"
  refine ⟨hnear, hsh, hfar, ?_, ?_⟩
  · calc (workshop.machine.host .standard).whichAny ["cc", "sh"]
      _ = (host ("a" ++ ":" ++ "b")).whichAny ["cc", "sh"] := by rw [hworld]
      _ = orSearch ((host "a").which "cc") (orSearch ((host "b").which "cc")
            ((host ("a" ++ ":" ++ "b")).whichAny ["sh"])) := hany "cc" ["sh"]
      _ = pure (some "b/cc") := by rw [hnear, hfar, orSearch_pure, orSearch_pure]
  · obtain ⟨found, hfound, hall⟩ := hprogram (some "b") "cc"
    have h : some "b/cc" = found :=
      congrArg (fun search => (StateT.run search []).1) (hfar.symm.trans hfound)
    exact hall "b/cc" h.symm

end SearchPath

end TestSelection
