import TestSelection.Host.FileTree

/-!
# File systems

A file system is known by what its paths denote, links followed, and by one law: a path whose end asks
for a directory denotes no regular file. Every tree of files is one of them (`FileTree.fileSystem`). In a
tree the files of the working directory are read under their names, and a link to the working directory
may be followed as often as links may be followed at all (`FileTree.follow_selfLinks`).
-/
namespace TestSelection

/-- A path ends in a slash, or in a point behind a slash. -/
def EndsInDirectory (path : String) : Prop :=
  ['/'] <:+ path.toList ∨ ['/', '.'] <:+ path.toList

theorem EndsInDirectory.of_suffix {path longer : String} (h : EndsInDirectory path)
    (hs : path.toList <:+ longer.toList) : EndsInDirectory longer :=
  h.imp (·.trans hs) (·.trans hs)

/-- What a path denotes. -/
inductive FileStatus
  /-- A regular file with its permission bits. -/
  | regular (mode : Nat)
  /-- A directory, or whatever else there is. -/
  | other
  deriving DecidableEq

structure FileSystem where
  /-- What a path denotes, links followed; none where it leads nowhere or may not be followed. -/
  status : String → Option FileStatus
  ne_regular_of_ends : ∀ {path : String}, EndsInDirectory path → ∀ mode,
    status path ≠ some (.regular mode)

/-! ## Programs -/

theorem FileTree.bit_mem_of_testBit {bit : Nat} (h : Nat.testBit 0o111 bit) : bit ∈ [0, 3, 6] := by
  have hlt : bit < 7 := by
    refine (Nat.pow_lt_pow_iff_right Nat.one_lt_two).mp ?_
    exact Nat.lt_of_le_of_lt (Nat.ge_two_pow_of_testBit h) (by decide)
  have hall : ∀ b < 7, Nat.testBit 0o111 b → b ∈ [0, 3, 6] := by decide
  exact hall bit hlt h

/-- One of the three permissions to execute is set. -/
theorem FileTree.isExecutableMode_iff {mode : Nat} :
    isExecutableMode mode ↔ ∃ bit ∈ [0, 3, 6], mode.testBit bit := by
  rw [isExecutableMode, bne_iff_ne]
  constructor
  · intro h
    obtain ⟨bit, hbit⟩ := Nat.exists_testBit_of_ne_zero h
    rw [Nat.testBit_and, Bool.and_eq_true] at hbit
    exact ⟨bit, bit_mem_of_testBit hbit.2, hbit.1⟩
  · rintro ⟨bit, hmem, hbit⟩ h
    have hmask : ∀ b ∈ [0, 3, 6], Nat.testBit 0o111 b := by decide
    have hboth : (mode &&& 0o111).testBit bit := by
      rw [Nat.testBit_and, hbit, hmask bit hmem]
      rfl
    rw [h, Nat.zero_testBit] at hboth
    cases hboth

namespace FileSystem

variable (fs : FileSystem) (path : String)

def isExecutable : Bool :=
  match fs.status path with
  | some (.regular mode) => FileTree.isExecutableMode mode
  | _ => false

/-- The path denotes a regular file that somebody may execute. -/
def IsProgram : Prop :=
  ∃ mode, fs.status path = some (.regular mode) ∧ ∃ bit ∈ [0, 3, 6], mode.testBit bit

theorem isExecutable_iff : fs.isExecutable path ↔ fs.IsProgram path := by
  unfold isExecutable IsProgram
  split
  · next mode h => simp [h, FileTree.isExecutableMode_iff]
  · next h =>
      refine ⟨nofun, ?_⟩
      rintro ⟨mode, hm, -⟩
      exact absurd hm (h mode)

instance : Decidable (fs.IsProgram path) :=
  decidable_of_iff _ (fs.isExecutable_iff path)

variable {path}

theorem not_isProgram_of_ends (h : EndsInDirectory path) : ¬fs.IsProgram path := by
  rintro ⟨mode, hm, -⟩
  exact fs.ne_regular_of_ends h mode hm

end FileSystem

/-! ## Trees of files -/

namespace FileTree

/-- A name that leads nowhere else, so what stands there must be a directory. -/
def Stays (name : String) : Prop :=
  name = "" ∨ name = "."

theorem stays_of_getLast?_cons {name : String} {rest : List String}
    (h : ∃ last ∈ (name :: rest).getLast?, Stays last) :
    (rest = [] ∧ Stays name) ∨ ∃ last ∈ rest.getLast?, Stays last := by
  cases rest with
  | nil =>
      obtain ⟨last, hmem, hs⟩ := h
      obtain rfl : name = last := Option.some.inj hmem
      exact .inl ⟨rfl, hs⟩
  | cons next rest => exact .inr h

/-- Names of which the last one stays lead to a directory or nowhere, through whatever links. -/
theorem exists_directory_of_follow {tree node : FileTree} {links : Nat} {place : Place}
    {names : List String} (h : tree.follow links place names = .ok node)
    (hlast : ∃ last ∈ names.getLast?, Stays last) : ∃ entries, node = directory entries := by
  -- The induction is on the walk. A step takes a name from the front, and a link puts names there, so
  -- the last name stays the last one until it is alone.
  fun_induction follow tree links place names with
  | case1 | case2 =>
      obtain ⟨last, hmem, -⟩ := hlast
      cases hmem
  | case3 links place name rest entries hplace hstays ih =>
      rcases stays_of_getLast?_cons hlast with ⟨rfl, -⟩ | hrest
      · rw [follow, hplace] at h
        cases h
        exact ⟨entries, rfl⟩
      · exact ih h hrest
  | case4 links place rest entries hplace hother ih =>
      rcases stays_of_getLast?_cons hlast with ⟨-, hs⟩ | hrest
      · exact absurd hs hother
      · exact ih h hrest
  | case7 name rest entries hother _ _ reversed target _ links _ ih =>
      rcases stays_of_getLast?_cons hlast with ⟨-, hs⟩ | ⟨last, hmem, hs⟩
      · exact absurd hs hother
      · refine ih h ⟨last, ?_, hs⟩
        rw [List.getLast?_append, hmem, Option.some_or]
        rfl
  | case8 links name rest entries hother _ _ reversed found _ _ _ ih =>
      rcases stays_of_getLast?_cons hlast with ⟨-, hs⟩ | hrest
      · exact absurd hs hother
      · exact ih h hrest
  | case5 | case6 | case9 | case10 | case11 => cases h

theorem follow_of_resolve {tree node : FileTree} {path : String} (h : tree.resolve path = .ok node) :
    tree.follow linkLimit (Place.start (.inside []) path) (names path) = .ok node := by
  unfold resolve at h
  split at h
  · cases h
  split at h
  · cases h
  split at h
  · cases h
  · exact h

theorem stays_of_ends {path : String} (h : EndsInDirectory path) :
    ∃ last ∈ (names path).getLast?, Stays last := by
  rcases h with ⟨front, h⟩ | ⟨front, h⟩
  · refine ⟨"", ?_, .inl rfl⟩
    rw [names, Text.split, ← h, Text.splitChars_append]
    simp [Text.splitChars]
  · refine ⟨".", ?_, .inr rfl⟩
    rw [names, Text.split, ← h, Text.splitChars_append]
    simp [Text.splitChars]

def status (tree : FileTree) (path : String) : Option FileStatus :=
  match tree.resolve path with
  | .ok (file mode _) => some (.regular mode)
  | .ok _ => some .other
  | .error _ => none

theorem status_ne_regular_of_ends (tree : FileTree) {path : String} (h : EndsInDirectory path)
    (mode : Nat) : tree.status path ≠ some (.regular mode) := by
  intro hs
  unfold status at hs
  split at hs
  · next content hr =>
      obtain ⟨entries, he⟩ := exists_directory_of_follow (follow_of_resolve hr) (stays_of_ends h)
      cases he
  · cases hs
  · cases hs

def fileSystem (tree : FileTree) : FileSystem where
  status := tree.status
  ne_regular_of_ends := tree.status_ne_regular_of_ends

theorem isExecutable_fileSystem (tree : FileTree) : tree.fileSystem.isExecutable = tree.isExecutable := by
  funext path
  simp only [FileSystem.isExecutable, fileSystem, status, isExecutable]
  cases tree.resolve path with
  | error e => rfl
  | ok node => cases node <;> rfl

/-! ## Links to the directory that they stand in -/

section SelfLink

variable {entries : List (String × FileTree)} {name : String}
  (hentry : entries.lookup name = some (link ".")) (hplain : name ∉ ["", ".", ".."])
  (hsize : name.utf8ByteSize ≤ nameLimit)

include hentry hplain hsize

/-- Such a link leads nowhere else, but it counts. -/
theorem follow_selfLink (links : Nat) (rest : List String) :
    (directory entries).follow links (.inside []) (name :: rest) =
      match links with
      | 0 => .error .tooManyLinks
      | links + 1 => (directory entries).follow links (.inside []) rest := by
  simp only [List.mem_cons, List.not_mem_nil, or_false, not_or] at hplain
  have hnames : names "." = ["."] := rfl
  have hstart : Place.start (.inside []) "." = .inside [] := rfl
  cases links <;> simp [follow, nodeAt, at?, hentry, hplain, Nat.not_lt.mpr hsize, hnames, hstart]

theorem follow_selfLinks (n links : Nat) (rest : List String) :
    (directory entries).follow (links + n) (.inside []) (List.replicate n name ++ rest) =
      (directory entries).follow links (.inside []) rest := by
  induction n with
  | zero => rfl
  | succ n ih =>
      rw [List.replicate_succ, List.cons_append, ← Nat.add_assoc,
        follow_selfLink hentry hplain hsize]
      exact ih

end SelfLink

/-! ## Files of the working directory -/

section WorkingDirectory

variable {entries : List (String × FileTree)} {name content : String} {mode : Nat}
  (hentry : entries.lookup name = some (file mode content)) (hplain : name ∉ ["", ".", ".."])
  (hsize : name.utf8ByteSize ≤ nameLimit)

include hentry hplain hsize

theorem follow_file (links : Nat) :
    (directory entries).follow links (.inside []) [name] = .ok (file mode content) := by
  simp only [List.mem_cons, List.not_mem_nil, or_false, not_or] at hplain
  simp [follow, nodeAt, at?, hentry, hplain, Nat.not_lt.mpr hsize]

theorem read_of_lookup (hnames : names name = [name])
    (hchars : '\x00' ∉ name.toList ∧ name.toList.head? ≠ some '/') :
    (directory entries).read name = .ok content := by
  have hne : name ≠ "" := fun h => hplain (h ▸ List.mem_cons_self)
  have hlimit : ¬pathLimit < name.utf8ByteSize := by
    simp only [pathLimit, nameLimit] at hsize ⊢
    omega
  have hstart : Place.start (.inside []) name = .inside [] := by simp [Place.start, hchars.2]
  simp [read, resolve, hnames, hstart, hchars.1, hne, hlimit,
    follow_file hentry hplain hsize linkLimit]

end WorkingDirectory

theorem hasPath_of_read {tree : FileTree} {path text : String} (h : tree.read path = .ok text) :
    tree.hasPath path = true := by
  unfold read at h
  unfold hasPath
  cases hr : tree.resolve path with
  | ok node => rfl
  | error e =>
      rw [hr] at h
      cases h

end FileTree

end TestSelection
