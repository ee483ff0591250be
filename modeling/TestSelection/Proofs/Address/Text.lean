import TestSelection.Proofs.Address.Digits

/-!
# The text of an address

An address is read back from its text (`parse?_text`). For version 6 the reader finds the groups before
and behind the two colons and puts as many zeros between them as were left out, and what was left out is
a run of zeros.
-/
namespace TestSelection.Address

/-! ## Groups with colons between them -/

/-- What stands behind some groups: nothing, or two colons. -/
def EndsGroups (rest : List Char) : Prop :=
  rest = [] ∨ ∃ more, rest = ':' :: ':' :: more

/-- Groups with a colon before each. -/
def colonGroups (groups : List UInt16) : List Char :=
  groups.flatMap fun g => ':' :: Nat.toDigits 16 g.toNat

theorem toList_groupsText_cons (g : UInt16) (rest : List UInt16) :
    (groupsText ((g :: rest).map UInt16.toNat)).toList =
      Nat.toDigits 16 g.toNat ++ colonGroups rest := by
  induction rest generalizing g with
  | nil => simp [groupsText, colonGroups]
  | cons g' rest ih =>
      have h := ih g'
      simp only [groupsText, String.toList_intercalate, List.map_cons] at h ⊢
      rw [List.intercalate_cons_cons, h]
      simp [colonGroups]

theorem head?_colonGroups (groups : List UInt16) {rest : List Char} (h : EndsGroups rest) :
    ∀ c ∈ (colonGroups groups ++ rest).head?, c = ':' := by
  cases groups with
  | nil => rcases h with rfl | ⟨more, rfl⟩ <;> simp [colonGroups]
  | cons g groups => simp [colonGroups]

theorem readFour?_group (g : UInt16) {rest : List Char} (hr : ∀ c ∈ rest.head?, c = ':') :
    readFour? (Nat.toDigits 16 g.toNat ++ rest) = none := by
  refine readFour?_eq_none fun hpoint => ?_
  rw [List.dropWhile_append] at hpoint
  split at hpoint
  · cases rest with
    | nil => cases hpoint
    | cons c rest =>
        cases hr c rfl
        cases hpoint
  · next hne =>
    rw [List.head?_append, Option.or_of_isSome (by simpa using hne)] at hpoint
    have hmem := List.dropWhile_subset _ (List.mem_of_head? hpoint)
    obtain ⟨d, hd, he⟩ := eq_digitChar_of_mem_toDigits hmem
    revert d
    decide

theorem readGroups_of_ends {isFirst : Bool} {room : Nat} {rest : List Char} (h : EndsGroups rest) :
    readGroups isFirst room rest = ([], false, rest) := by
  cases room with
  | zero => rfl
  | succ room =>
      rcases h with rfl | ⟨more, rfl⟩
      · cases isFirst <;> cases room <;> rfl
      · cases isFirst <;> cases room <;> rfl

theorem readGroups_group (isFirst : Bool) (room : Nat) (g : UInt16) {rest : List Char}
    (hr : ∀ c ∈ rest.head?, c = ':') :
    readGroups isFirst (room + 1)
        ((if isFirst then [] else [':']) ++ (Nat.toDigits 16 g.toNat ++ rest)) =
      (g :: (readGroups false room rest).1, (readGroups false room rest).2) := by
  have hfour : (if room = 0 then none else readFour? (Nat.toDigits 16 g.toNat ++ rest)) = none := by
    rw [readFour?_group g hr, ite_self]
  have hgroup : readGroup? (Nat.toDigits 16 g.toNat ++ rest) = some (g, rest) := by
    refine readGroup?_toDigits g fun c hc => ?_
    rw [hr c hc]
    rfl
  cases isFirst with
  | true =>
      rw [readGroups]
      simp only [↓reduceIte, List.nil_append, hfour, hgroup]
  | false =>
      rw [readGroups]
      simp only [Bool.false_eq_true, ↓reduceIte, List.singleton_append, expect?_cons, hfour, hgroup]

theorem readGroups_colonGroups {groups : List UInt16} {room : Nat} (hroom : groups.length ≤ room)
    {rest : List Char} (h : EndsGroups rest) :
    readGroups false room (colonGroups groups ++ rest) = (groups, false, rest) := by
  induction groups generalizing room with
  | nil => exact readGroups_of_ends h
  | cons g groups ih =>
      obtain ⟨room, rfl⟩ := Nat.exists_eq_add_one_of_ne_zero (Nat.ne_zero_of_lt hroom)
      have hg := readGroups_group false room g (head?_colonGroups groups h)
      rw [ih (Nat.le_of_succ_le_succ hroom)] at hg
      simpa [colonGroups] using hg

theorem readGroups_groupsText (groups : List UInt16) {room : Nat} (hroom : groups.length ≤ room)
    {rest : List Char} (h : EndsGroups rest) :
    readGroups true room ((groupsText (groups.map UInt16.toNat)).toList ++ rest) =
      (groups, false, rest) := by
  cases groups with
  | nil => exact readGroups_of_ends h
  | cons g groups =>
      obtain ⟨room, rfl⟩ := Nat.exists_eq_add_one_of_ne_zero (Nat.ne_zero_of_lt hroom)
      have hg := readGroups_group true room g (head?_colonGroups groups h)
      rw [readGroups_colonGroups (Nat.le_of_succ_le_succ hroom) h] at hg
      rw [toList_groupsText_cons, List.append_assoc]
      exact hg

theorem readFour?_groupsText (groups : List UInt16) {rest : List Char} (h : EndsGroups rest) :
    readFour? ((groupsText (groups.map UInt16.toNat)).toList ++ rest) = none := by
  cases groups with
  | nil => rcases h with rfl | ⟨more, rfl⟩ <;> rfl
  | cons g groups =>
      rw [toList_groupsText_cons, List.append_assoc]
      exact readFour?_group g (head?_colonGroups groups h)

/-! ## Groups that are left out -/

/-- A run of zeros in a list. -/
def IsZeroRun (groups : List Nat) (r : Run) : Prop :=
  ∃ front back, groups = front ++ List.replicate r.length 0 ++ back ∧ front.length = r.start

/-- Zeros at the end of a list; an empty run may stand anywhere. -/
def IsZeroEnd (groups : List Nat) (r : Run) : Prop :=
  ∃ front, groups = front ++ List.replicate r.length 0 ∧ (r.length ≠ 0 → front.length = r.start)

theorem IsZeroEnd.zero {seen : List Nat} {current : Run} (h : IsZeroEnd seen current) :
    IsZeroEnd (seen ++ [0])
      (if current.length = 0 then ⟨seen.length, 1⟩ else ⟨current.start, current.length + 1⟩) := by
  obtain ⟨front, hs, hf⟩ := h
  split
  · exact ⟨seen, rfl, fun _ => rfl⟩
  · next hne => exact ⟨front, by simp [hs, List.replicate_succ'], fun _ => hf hne⟩

theorem IsZeroEnd.isZeroRun {seen : List Nat} {r : Run} (h : IsZeroEnd seen r) (hr : r.length ≠ 0)
    (rest : List Nat) : IsZeroRun (seen ++ rest) r := by
  obtain ⟨front, hs, hf⟩ := h
  exact ⟨front, rest, by rw [← hs], hf hr⟩

/-- The run that is found lies in the groups, if the runs found so far do. -/
theorem isZeroRun_longestZeroRun {seen rest : List Nat} {current longest : Run}
    (hc : IsZeroEnd seen current) (hl : IsZeroRun (seen ++ rest) longest) :
    IsZeroRun (seen ++ rest) (longestZeroRun seen.length current longest rest) := by
  induction rest generalizing seen current longest with
  | nil => exact hl
  | cons g rest ih =>
      have happend : seen ++ g :: rest = (seen ++ [g]) ++ rest := by simp
      have hlength : (seen ++ [g]).length = seen.length + 1 := by simp
      rw [happend] at hl ⊢
      cases g with
      | zero =>
          rw [longestZeroRun, ← hlength]
          have hend := hc.zero
          generalize (if current.length = 0 then (⟨seen.length, 1⟩ : Run)
            else ⟨current.start, current.length + 1⟩) = current' at hend ⊢
          refine ih hend ?_
          split
          · next hlt => exact hend.isZeroRun (Nat.ne_zero_of_lt hlt) rest
          · exact hl
      | succ g =>
          rw [longestZeroRun, ← hlength]
          · exact ih ⟨seen ++ [g + 1], by simp, fun h => absurd rfl h⟩ hl
          · simp

theorem exists_zeros_of_isZeroRun {groups : List UInt16} {r : Run}
    (h : IsZeroRun (groups.map UInt16.toNat) r) :
    ∃ front back, groups = front ++ List.replicate r.length 0 ++ back ∧ front.length = r.start := by
  obtain ⟨front, back, hg, hf⟩ := h
  obtain ⟨most, back, rfl, hm, rfl⟩ := List.map_eq_append_iff.mp hg
  obtain ⟨front, zeros, rfl, rfl, hz⟩ := List.map_eq_append_iff.mp hm
  obtain ⟨hlength, hzero⟩ := List.eq_replicate_iff.mp hz
  refine ⟨front, back, ?_, by simpa using hf⟩
  congr 2
  refine List.eq_replicate_iff.mpr ⟨by simpa using hlength, fun g hg => ?_⟩
  exact UInt16.toNat_inj.mp (hzero _ (List.mem_map_of_mem hg))

/-! ## Addresses -/

theorem ofGroups?_toList (groups : Vector UInt16 8) : ofGroups? groups.toList = some (v6 groups) := by
  obtain ⟨⟨groups⟩, h⟩ := groups
  exact dif_pos h

/-- Groups before and behind two colons are read back with zeros between them. -/
theorem readSix?_compressed {groups : Vector UInt16 8} {front back : List UInt16} {zeros : Nat}
    (hz : 0 < zeros) (h : groups.toList = front ++ List.replicate zeros 0 ++ back) :
    readSix? ((groupsText (front.map UInt16.toNat)).toList ++
      ':' :: ':' :: (groupsText (back.map UInt16.toNat)).toList) = some (v6 groups, []) := by
  have hlength := congrArg List.length h
  simp only [List.length_append, List.length_replicate, Vector.length_toList] at hlength
  have hfront := readGroups_groupsText front (show front.length ≤ 8 by omega)
    (.inr ⟨(groupsText (back.map UInt16.toNat)).toList, rfl⟩)
  have hback := readGroups_groupsText back (show back.length ≤ 7 - front.length by omega) (.inl rfl)
  rw [List.append_nil] at hback
  have hzeros : 8 - front.length - back.length = zeros := by omega
  have hne : front.length ≠ 8 := by omega
  rw [readSix?, hfront]
  simp only [hne, ↓reduceIte, expect?_cons, Option.bind_eq_bind, Option.bind_some, hback, hzeros,
    ← h, ofGroups?_toList]
  rfl

theorem readSix?_full (groups : Vector UInt16 8) :
    readSix? (groupsText (groups.toList.map UInt16.toNat)).toList = some (v6 groups, []) := by
  have hall := readGroups_groupsText groups.toList (show groups.toList.length ≤ 8 by simp) (.inl rfl)
  rw [List.append_nil] at hall
  rw [readSix?, hall]
  simp [ofGroups?_toList]

/-- The two octets of a group. -/
theorem toNat_octets (g : UInt16) : ∃ high low : UInt8, high.toNat = g.toNat / 256 ∧
    low.toNat = g.toNat % 256 ∧ high.toUInt16 * 256 + low.toUInt16 = g := by
  have hg : g.toNat < 65536 := g.toNat_lt
  refine ⟨(g.toNat / 256).toUInt8, (g.toNat % 256).toUInt8, ?_, ?_, ?_⟩
  · simp
    omega
  · simp
  · apply UInt16.toNat_inj.mp
    simp
    omega

/-- Behind the group `ffff` the octets fill the last two places. -/
theorem readGroups_mapped {four : List Char} {octets : UInt8 × UInt8 × UInt8 × UInt8}
    (h : readFour? four = some (octets, [])) :
    readGroups true 7 (Nat.toDigits 16 (0xffff : UInt16).toNat ++ ':' :: four) =
      (0xffff :: groupsOfFour octets, true, []) := by
  have hlast : readGroups false 6 (':' :: four) = (groupsOfFour octets, true, []) := by
    rw [readGroups]
    simp only [Bool.false_eq_true, ↓reduceIte, expect?_cons, Nat.succ_ne_zero, h]
  have hcolon : ∀ c ∈ (':' :: four).head?, c = ':' := by simp
  have hg := readGroups_group true 6 0xffff hcolon
  rw [hlast] at hg
  exact hg

theorem readSix?_mapped {groups : Vector UInt16 8} {high low : UInt16}
    (h : groups.toList = [0, 0, 0, 0, 0, 0xffff, high, low]) :
    readSix? ("::ffff:" ++ text4 (high.toNat / 256) (high.toNat % 256) (low.toNat / 256)
      (low.toNat % 256)).toList = some (v6 groups, []) := by
  obtain ⟨a, b, ha, hb, hhigh⟩ := toNat_octets high
  obtain ⟨c, d, hc, hd, hlow⟩ := toNat_octets low
  rw [← ha, ← hb, ← hc, ← hd]
  have hback := readGroups_mapped (readFour?_text4 a b c d)
  have hgroups := ofGroups?_toList groups
  rw [h, ← hhigh, ← hlow] at hgroups
  have htext : ("::ffff:" ++ text4 a.toNat b.toNat c.toNat d.toNat).toList = ':' :: ':' ::
      (Nat.toDigits 16 (0xffff : UInt16).toNat ++
        ':' :: (text4 a.toNat b.toNat c.toNat d.toNat).toList) := by
    rw [String.toList_append]
    rfl
  rw [htext, readSix?, readGroups_of_ends (.inr ⟨_, rfl⟩)]
  simp only [↓reduceIte, Bool.false_eq_true, expect?_cons, Option.bind_eq_bind,
    Option.bind_some, List.length_nil, Nat.sub_zero, hback]
  exact congrArg (Option.bind · fun a => some (a, [])) hgroups

theorem parse?_of_readSix? {s : String} {a : Address} (hfour : readFour? s.toList = none)
    (hsix : readSix? s.toList = some (a, [])) : parse? s = some a := by
  rw [parse?, hfour]
  simp only [hsix]
  rfl

theorem parse?_text6 (groups : Vector UInt16 8) :
    parse? (text6 (groups.toList.map UInt16.toNat)) = some (v6 groups) := by
  unfold text6
  split
  · next high low heq =>
    obtain ⟨prefixed, last, hlist, hprefixed, hlast⟩ := List.map_eq_append_iff.mp
      (show _ = [0, 0, 0, 0, 0, (0xffff : UInt16)].map UInt16.toNat ++ [high, low] from heq)
    obtain rfl := (List.map_inj_right fun _ _ => UInt16.toNat_inj.mp).mp hprefixed
    obtain ⟨g, rest, rfl, rfl, hrest⟩ := List.map_eq_cons_iff.mp hlast
    obtain ⟨g', rfl, rfl⟩ := List.map_eq_singleton_iff.mp hrest
    apply parse?_of_readSix?
    · apply readFour?_eq_none
      rw [String.toList_append]
      exact fun h => absurd h (by decide : some ':' ≠ some '.')
    · exact readSix?_mapped hlist
  · have hnone : IsZeroRun ([] ++ groups.toList.map UInt16.toNat) ⟨0, 0⟩ := ⟨[], _, rfl, rfl⟩
    have hend : IsZeroEnd [] ⟨0, 0⟩ := ⟨[], rfl, fun h => absurd rfl h⟩
    have hrun := isZeroRun_longestZeroRun hend hnone
    simp only [List.nil_append, List.length_nil] at hrun ⊢
    generalize longestZeroRun 0 ⟨0, 0⟩ ⟨0, 0⟩ (groups.toList.map UInt16.toNat) = run at hrun ⊢
    obtain ⟨front, back, hg, hf⟩ := exists_zeros_of_isZeroRun hrun
    split
    · next hlong =>
      have htake : (groups.toList.map UInt16.toNat).take run.start = front.map UInt16.toNat := by
        rw [← List.map_take, hg, ← hf, List.append_assoc, List.take_left]
      have hdrop : (groups.toList.map UInt16.toNat).drop (run.start + run.length) =
          back.map UInt16.toNat := by
        rw [← List.map_drop, hg, ← hf]
        congr 1
        exact List.drop_left' (by simp)
      rw [htake, hdrop]
      have hlist : (groupsText (front.map UInt16.toNat) ++ "::" ++
          groupsText (back.map UInt16.toNat)).toList = (groupsText (front.map UInt16.toNat)).toList ++
            ':' :: ':' :: (groupsText (back.map UInt16.toNat)).toList := by
        simp
      apply parse?_of_readSix?
      · rw [hlist]
        exact readFour?_groupsText front (.inr ⟨_, rfl⟩)
      · rw [hlist]
        exact readSix?_compressed (Nat.zero_lt_of_lt hlong) hg
    · apply parse?_of_readSix?
      · have hfour := readFour?_groupsText groups.toList (.inl rfl)
        rwa [List.append_nil] at hfour
      · exact readSix?_full groups

theorem parse?_text (a : Address) : parse? a.text = some a := by
  cases a with
  | v4 a b c d =>
      rw [text, parse?, readFour?_text4]
      rfl
  | v6 groups => exact parse?_text6 groups

end TestSelection.Address
