import TestSelection.Proofs.SearchPath.Composition

/-!
# Names with a slash

A name with a slash is meant as a path. Most of them have several components and are looked for as they
stand. The others, such as `x/` or `./`, are looked for in every directory, but they all ask for a
directory at their end, so nothing is found there and nothing would be found without
(`which_of_slash`).
-/
namespace TestSelection.SearchPath

/-! ## Components -/

/-- A text with a separator in it is cut at the last one. -/
theorem exists_last_separator {separator : Char} {cs : List Char} (h : separator ∈ cs) :
    ∃ front last, cs = front ++ separator :: last ∧ separator ∉ last := by
  obtain ⟨last, front, hrev, hlast⟩ := List.eq_append_cons_of_mem (List.mem_reverse.mpr h)
  refine ⟨front.reverse, last.reverse, ?_, by simpa using hlast⟩
  rw [← List.reverse_reverse cs, hrev]
  simp

theorem head?_of_splitChars_eq {separator : Char} {cs : List Char} {rest : List (List Char)}
    (h : Text.splitChars separator cs = [] :: rest) : cs = [] ∨ cs.head? = some separator := by
  cases cs with
  | nil => exact .inl rfl
  | cons c more =>
      by_cases hc : c = separator
      · exact .inr (congrArg some hc)
      · obtain ⟨piece, others, hs⟩ :=
          List.exists_cons_of_ne_nil (Text.splitChars_ne_nil separator more)
        simp [Text.splitChars, hc, hs] at h

/-- A piece that is a component wherever it stands. -/
def isProper (piece : String) : Bool :=
  piece != "" && piece != "."

theorem isProper_ofList_iff {cs : List Char} :
    isProper (String.ofList cs) ↔ cs ≠ [] ∧ cs ≠ ['.'] := by
  have hpoint : String.ofList cs = "." ↔ cs = ['.'] := by
    rw [← String.toList_inj, String.toList_ofList]
    rfl
  simp [isProper, hpoint]

theorem componentCount_eq (name : String) : componentCount name =
    ((pieces name).filter isProper).length +
      if isAbsolute name || (pieces name).head? == some "." then 1 else 0 :=
  rfl

/-- What stands before the first slash is a component, unless it is empty and so the root is one. -/
theorem isProper_of_not_leading {name first : String} {rest : List String}
    (hp : pieces name = first :: rest) (hne : name ≠ "")
    (hlead : ¬(isAbsolute name || (pieces name).head? == some ".")) : isProper first := by
  rw [Bool.or_eq_true, not_or] at hlead
  obtain ⟨habs, hpoint⟩ := hlead
  have hmap : (Text.splitChars '/' name.toList).map String.ofList = first :: rest := hp
  obtain ⟨piece, others, hsplit, rfl, -⟩ := List.map_eq_cons_iff.mp hmap
  rw [isProper_ofList_iff]
  constructor
  · rintro rfl
    rcases head?_of_splitChars_eq hsplit with hnil | hslash
    · exact hne (String.toList_eq_nil_iff.mp hnil)
    · exact habs (by simp [isAbsolute, hslash])
  · rintro rfl
    exact hpoint (by simp [hp])

/-- A name has something before its first slash, or the root, and so a second component where what
stands behind its last slash is one. -/
theorem one_lt_componentCount {name : String} {front last : List Char}
    (hname : name.toList = front ++ '/' :: last) (hlast : '/' ∉ last)
    (hproper : isProper (String.ofList last)) : 1 < componentCount name := by
  obtain ⟨first, middle, hf⟩ := List.exists_cons_of_ne_nil (Text.splitChars_ne_nil '/' front)
  have hp : pieces name =
      String.ofList first :: (middle.map String.ofList ++ [String.ofList last]) := by
    rw [pieces, Text.split, hname, Text.splitChars_append, Text.splitChars_of_not_mem hlast, hf]
    simp
  have hne : name ≠ "" := by
    rintro rfl
    simp at hname
  rw [componentCount_eq]
  split
  · have hall : 0 < ((pieces name).filter isProper).length :=
      List.length_pos_of_mem (List.mem_filter.mpr ⟨by simp [hp], hproper⟩)
    omega
  · next hlead =>
      have hbehind : 0 < ((middle.map String.ofList ++ [String.ofList last]).filter isProper).length :=
        List.length_pos_of_mem (List.mem_filter.mpr ⟨by simp, hproper⟩)
      rw [hp, List.filter_cons_of_pos (isProper_of_not_leading hp hne hlead), List.length_cons]
      omega

/-- A name with a slash and a single component asks for a directory at its end. -/
theorem endsInDirectory_of_componentCount {name : String} (hs : '/' ∈ name.toList)
    (hc : componentCount name ≤ 1) : EndsInDirectory name := by
  obtain ⟨front, last, hname, hlast⟩ := exists_last_separator hs
  by_cases hnil : last = []
  · subst hnil
    exact .inl ⟨front, hname.symm⟩
  by_cases hpoint : last = ['.']
  · subst hpoint
    exact .inr ⟨front, hname.symm⟩
  · have hproper := isProper_ofList_iff.mpr ⟨hnil, hpoint⟩
    exact absurd hc (Nat.not_le.mpr (one_lt_componentCount hname hlast hproper))

theorem suffix_join (dir name : String) : name.toList <:+ (join dir name).toList := by
  unfold join
  split
  · exact List.suffix_rfl
  split
  · rw [String.toList_append]
    exact List.suffix_append _ _
  · rw [String.toList_append]
    exact List.suffix_append _ _

/-! ## Names that are paths -/

theorem not_isProgram_join (fs : FileSystem) (dir : String) {name : String} (hs : '/' ∈ name.toList)
    (hc : componentCount name ≤ 1) : ¬fs.IsProgram (join dir name) :=
  fs.not_isProgram_of_ends
    ((endsInDirectory_of_componentCount hs hc).of_suffix (suffix_join dir name))

theorem not_isProgram_of_slash (fs : FileSystem) {name : String} (hs : '/' ∈ name.toList)
    (hc : componentCount name ≤ 1) : ¬fs.IsProgram name :=
  fs.not_isProgram_of_ends (endsInDirectory_of_componentCount hs hc)

theorem program?_of_slash (fs : FileSystem) (searchPath : Option String) {name : String}
    (hs : '/' ∈ name.toList) :
    program? fs searchPath name = if fs.IsProgram name then some name else none := by
  have hne : name ≠ "" := by
    rintro rfl
    cases hs
  unfold program? candidates
  rw [if_neg hne]
  split
  · by_cases hp : fs.IsProgram name
    · rw [List.find?_cons_of_pos ((fs.isExecutable_iff name).mpr hp), if_pos hp]
    · rw [List.find?_cons_of_neg (mt (fs.isExecutable_iff name).mp hp), if_neg hp]
      rfl
  · next hc =>
      have hsingle := Nat.not_lt.mp hc
      rw [if_neg (not_isProgram_of_slash fs hs hsingle)]
      refine List.find?_eq_none.mpr fun path hpath => ?_
      cases searchPath with
      | none => cases hpath
      | some dirs =>
          obtain ⟨dir, -, rfl⟩ := List.mem_map.mp hpath
          exact mt (fs.isExecutable_iff _).mp (not_isProgram_join fs dir hs hsingle)

variable {m : Type → Type} [Monad m] [LawfulMonad m]

/-- On any machine whose files stay as they are, a name with a slash is found just where it says, if
there is a program, and no search path makes a difference. This holds as well for a name of a single
component, which is put behind each directory of the search path: neither the name nor any of the paths
made of it is a program. -/
theorem which_of_slash (machine : Command.Machine m) (fs : FileSystem) (searchPath : Option String)
    (probes : ProbeSettings) {name : String} (hs : '/' ∈ name.toList) :
    ((machine.searching fs searchPath).host probes).which name =
      pure (if fs.IsProgram name then some name else none) ∧
    (componentCount name ≤ 1 →
      ¬fs.IsProgram name ∧ ∀ dir, ¬fs.IsProgram (join dir name)) := by
  refine ⟨?_, fun hc => ⟨not_isProgram_of_slash fs hs hc, fun dir => ?_⟩⟩
  · rw [which_searching, program?_of_slash fs searchPath hs]
  · exact not_isProgram_join fs dir hs hc

/-- A program is found by its name and by its path, and not by its name with a slash behind it. -/
theorem which_of_slash_workshop :
    let host := workshop.machine.host .standard
    host.which "sh" = pure (some "a/sh") ∧
      host.which "b/cc" = pure (some "b/cc") ∧
      '/' ∈ "sh/".toList ∧ componentCount "sh/" = 1 ∧ host.which "sh/" = pure none := by
  intro host
  have hhost : host = (workshop.machine.searching workshop.files.fileSystem (some "a:b")).host
      .standard := congrArg (Command.Machine.host · .standard) workshop.searching_machine.symm
  obtain ⟨hash, hbcc, -⟩ := isExecutable_workshop
  have hcandidates : candidates (some "a:b") "sh" = ["a/sh", "b/sh"] := by decide
  have hprogram : workshop.files.fileSystem.IsProgram "b/cc" := by
    rw [← FileSystem.isExecutable_iff, FileTree.isExecutable_fileSystem]
    exact hbcc
  have hslash : '/' ∈ "sh/".toList := by decide
  have hsingle : componentCount "sh/" = 1 := by decide
  obtain ⟨hpath, -⟩ := which_of_slash workshop.machine workshop.files.fileSystem (some "a:b")
    .standard (show '/' ∈ "b/cc".toList by decide)
  obtain ⟨hname, hnone⟩ := which_of_slash workshop.machine workshop.files.fileSystem (some "a:b")
    .standard hslash
  refine ⟨?_, ?_, hslash, hsingle, ?_⟩
  · rw [hhost, which_searching, program?_workshop, hcandidates, List.find?_cons_of_pos hash]
  · rw [hhost, hpath, if_pos hprogram]
  · rw [hhost, hname, if_neg (hnone (Nat.le_of_eq hsingle)).1]

end TestSelection.SearchPath
