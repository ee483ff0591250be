import TestSelection.Address

/-!
# Numbers in an address

An octet is written in decimal digits without leading zeros and a group in hexadecimal digits. Read
where no more digits follow, they give the number back.
-/
namespace TestSelection.Address

theorem digitValue?_digitChar : ∀ d < 16, digitValue? 16 (Nat.digitChar d) = some d := by
  decide

theorem digitChar_ne_zero : ∀ d < 10, 0 < d → Nat.digitChar d ≠ '0' := by
  decide

theorem span_append {p : Char → Bool} {word rest : List Char} (hw : ∀ c ∈ word, p c)
    (hr : ∀ c ∈ rest.head?, p c = false) :
    (word ++ rest).takeWhile p = word ∧ (word ++ rest).dropWhile p = rest := by
  rw [List.takeWhile_append_of_pos hw, List.dropWhile_append_of_pos hw]
  cases rest with
  | nil => simp
  | cons c rest => simp [hr c rfl]

/-! ## Octets -/

/-- Only zero is written with a zero in front. -/
theorem head?_toDigits_ne_zero {n : Nat} (hn : 0 < n) : (Nat.toDigits 10 n).head? ≠ some '0' := by
  induction n using Nat.strongRecOn with
  | ind n ih =>
      rw [Nat.toDigits_eq_if (by decide)]
      split
      · next hlt => simpa using digitChar_ne_zero n hlt hn
      · have hh := ih (n / 10) (by omega) (by omega)
        rwa [List.head?_append, Option.or_of_isSome (List.isSome_head?.mpr Nat.toDigits_ne_nil)]

theorem readOctet?_toDigits (b : UInt8) {rest : List Char}
    (hr : ∀ c ∈ rest.head?, c.isDigit = false) :
    readOctet? (Nat.toDigits 10 b.toNat ++ rest) = some (b, rest) := by
  have hb : b.toNat < 256 := b.toNat_lt
  have hdigits : ∀ c ∈ Nat.toDigits 10 b.toNat, c.isDigit := fun c hc =>
    Nat.isDigit_of_mem_toDigits (by decide) (by decide) hc
  obtain ⟨ht, hd⟩ := span_append hdigits hr
  have hvalue : (Nat.toDigits 10 b.toNat).foldl (fun n c => 10 * n + (c.toNat - '0'.toNat)) 0 =
      b.toNat := Nat.ofDigitChars_toDigits (by decide) (by decide)
  have hlength : (Nat.toDigits 10 b.toNat).length ≤ 3 :=
    (Nat.length_toDigits_le_iff (by decide) (by decide)).mpr (by omega)
  have hlead : ¬((Nat.toDigits 10 b.toNat).head? = some '0' ∧ 1 < (Nat.toDigits 10 b.toNat).length) := by
    rintro ⟨hz, hl⟩
    refine head?_toDigits_ne_zero (Nat.pos_of_ne_zero fun h0 => ?_) hz
    rw [h0] at hl
    exact absurd hl (by decide)
  rw [readOctet?, ht, hd, hvalue, if_neg]
  · simp
  · simp only [Bool.or_eq_true, List.isEmpty_iff, Nat.toDigits_ne_nil, decide_eq_true_eq,
      Bool.and_eq_true, beq_iff_eq, false_or]
    rintro ((hl | hl) | hl)
    · omega
    · exact hlead hl
    · omega

theorem expect?_cons (c : Char) (rest : List Char) : expect? c (c :: rest) = some rest :=
  if_pos rfl

theorem expect?_eq_none {c : Char} {cs : List Char} (h : cs.head? ≠ some c) : expect? c cs = none := by
  cases cs with
  | nil => rfl
  | cons d rest =>
      refine if_neg fun hc => h ?_
      rw [hc, List.head?_cons]

/-- Four octets do not begin where some digits end in something else than a point. -/
theorem readFour?_eq_none {cs : List Char} (h : (cs.dropWhile Char.isDigit).head? ≠ some '.') :
    readFour? cs = none := by
  rw [readFour?, readOctet?]
  split
  · rfl
  · simp [expect?_eq_none h]

theorem readFour?_text4 (a b c d : UInt8) :
    readFour? (text4 a.toNat b.toNat c.toNat d.toNat).toList = some ((a, b, c, d), []) := by
  have ht : (text4 a.toNat b.toNat c.toNat d.toNat).toList =
      Nat.toDigits 10 a.toNat ++ '.' :: (Nat.toDigits 10 b.toNat ++ '.' ::
        (Nat.toDigits 10 c.toNat ++ '.' :: (Nat.toDigits 10 d.toNat ++ []))) := by
    simp [text4, Nat.toList_repr]
  have hpoint (rest : List Char) : ∀ c ∈ ('.' :: rest).head?, c.isDigit = false := by
    rintro _ ⟨⟩
    rfl
  have hend : ∀ c ∈ ([] : List Char).head?, c.isDigit = false := by simp
  rw [ht, readFour?, readOctet?_toDigits a (hpoint _)]
  simp only [expect?_cons, readOctet?_toDigits b (hpoint _), readOctet?_toDigits c (hpoint _),
    readOctet?_toDigits d hend, Option.bind_eq_bind, Option.bind_some]

/-! ## Groups -/

theorem eq_digitChar_of_mem_toDigits {n : Nat} {c : Char} (h : c ∈ Nat.toDigits 16 n) :
    ∃ d < 16, c = Nat.digitChar d := by
  induction n using Nat.strongRecOn with
  | ind n ih =>
      rw [Nat.toDigits_eq_if (by decide)] at h
      split at h
      · next hlt => exact ⟨n, hlt, List.mem_singleton.mp h⟩
      · rcases List.mem_append.mp h with h | h
        · exact ih (n / 16) (by omega) h
        · exact ⟨n % 16, Nat.mod_lt n (by decide), List.mem_singleton.mp h⟩

theorem value_toDigits (n : Nat) :
    (Nat.toDigits 16 n).foldl (fun n c => 16 * n + (digitValue? 16 c).getD 0) 0 = n := by
  induction n using Nat.strongRecOn with
  | ind n ih =>
      rw [Nat.toDigits_eq_if (by decide)]
      split
      · next hlt => simp [digitValue?_digitChar n hlt]
      · rw [List.foldl_append, ih (n / 16) (by omega)]
        simp only [List.foldl_cons, List.foldl_nil, Option.getD_some,
          digitValue?_digitChar (n % 16) (Nat.mod_lt n (by decide))]
        exact Nat.div_add_mod n 16

theorem readGroup?_toDigits (g : UInt16) {rest : List Char}
    (hr : ∀ c ∈ rest.head?, digitValue? 16 c = none) :
    readGroup? (Nat.toDigits 16 g.toNat ++ rest) = some (g, rest) := by
  have hg : g.toNat < 16 ^ 4 := g.toNat_lt
  have hdigits : ∀ c ∈ Nat.toDigits 16 g.toNat, (digitValue? 16 c).isSome := by
    intro c hc
    obtain ⟨d, hd, rfl⟩ := eq_digitChar_of_mem_toDigits hc
    rw [digitValue?_digitChar d hd, Option.isSome_some]
  have hrest : ∀ c ∈ rest.head?, (digitValue? 16 c).isSome = false := by
    intro c hc
    rw [hr c hc, Option.isSome_none]
  obtain ⟨ht, hd⟩ := span_append hdigits hrest
  have hlength : (Nat.toDigits 16 g.toNat).length ≤ 4 :=
    (Nat.length_toDigits_le_iff (by decide) (by decide)).mpr hg
  rw [readGroup?, ht, hd, if_neg]
  · simp [value_toDigits]
  · simp only [Bool.or_eq_true, List.isEmpty_iff, Nat.toDigits_ne_nil, decide_eq_true_eq, false_or]
    omega

end TestSelection.Address
