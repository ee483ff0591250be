import TestSelection.Duration

/-!
# Products of time spans

A span taken several times is the product in nanoseconds, or the greatest span where the product is longer
(`toNanos_saturatingMul`). Words of 64 bits are enough for it: the nanoseconds of all spans fit in one, and
of the seconds it is noticed when they do not (`saturatingMul_eq_getD`).
-/
namespace TestSelection.Duration

theorem toNanos_greatest : greatest.toNanos = UInt64.size * 1_000_000_000 - 1 :=
  rfl

theorem toNanos_le_greatest (d : Duration) : d.toNanos ≤ greatest.toNanos := by
  have hseconds := d.seconds_lt
  have hnanos := d.nanos_lt
  rw [toNanos_greatest, toNanos]
  omega

theorem toNanos_injective : Function.Injective toNanos := by
  rintro ⟨s, n, hs, hn⟩ ⟨s', n', hs', hn'⟩ h
  simp only [toNanos] at h
  have hseconds : s = s' := by omega
  have hnanos : n = n' := by omega
  subst hseconds hnanos
  rfl

/-- Each part by itself and the carry make up the product. -/
theorem mul_parts (d : Duration) (times : Nat) :
    (d.seconds * times + d.nanos * times / 1_000_000_000) * 1_000_000_000 +
      d.nanos * times % 1_000_000_000 = d.toNanos * times := by
  have hseconds : d.seconds * times * 1_000_000_000 = d.seconds * 1_000_000_000 * times :=
    Nat.mul_right_comm _ _ _
  rw [toNanos, Nat.add_mul, Nat.add_mul, Nat.add_assoc, Nat.div_add_mod', hseconds]

theorem toNanos_saturatingMul (d : Duration) (times : Nat) :
    (d.saturatingMul times).toNanos = min (d.toNanos * times) greatest.toNanos := by
  have hparts := d.mul_parts times
  have hrest : d.nanos * times % 1_000_000_000 < 1_000_000_000 := Nat.mod_lt _ (by decide)
  unfold saturatingMul
  dsimp only
  split
  · next hfits =>
      rw [Nat.min_eq_left (by rw [toNanos_greatest]; omega)]
      exact hparts
  · next hfits =>
      rw [Nat.min_eq_right (by rw [toNanos_greatest]; omega)]

theorem saturatingMul_le {d d' : Duration} {times times' : Nat} (hd : d.toNanos ≤ d'.toNanos)
    (ht : times ≤ times') :
    (d.saturatingMul times).toNanos ≤ (d'.saturatingMul times').toNanos := by
  rw [toNanos_saturatingMul, toNanos_saturatingMul]
  have := Nat.mul_le_mul hd ht
  omega

/-! ## Products in words -/

def mulWord? (a b : UInt64) : Option UInt64 :=
  if a.toNat * b.toNat < UInt64.size then some (a * b) else none

def addWord? (a b : UInt64) : Option UInt64 :=
  if a.toNat + b.toNat < UInt64.size then some (a + b) else none

/-- A span taken several times, in words of 64 bits, unless its seconds do not fit. -/
def checkedMul (d : Duration) (times : UInt32) : Option Duration := do
  let nanos := d.nanos.toUInt64 * times.toUInt64
  let seconds ← mulWord? d.seconds.toUInt64 times.toUInt64
  let seconds ← addWord? seconds (nanos / 1_000_000_000)
  return {
    seconds := seconds.toNat
    nanos := (nanos % 1_000_000_000).toNat
    seconds_lt := seconds.toNat_lt_size
    nanos_lt := by rw [UInt64.toNat_mod]; exact Nat.mod_lt _ (by decide) }

theorem mulWord?_eq_some_iff {a b c : UInt64} :
    mulWord? a b = some c ↔ c.toNat = a.toNat * b.toNat := by
  have hc := c.toNat_lt_size
  have hmod : (a * b).toNat = a.toNat * b.toNat % UInt64.size := UInt64.toNat_mul a b
  unfold mulWord?
  split
  · next hfits =>
      rw [Option.some_inj, ← UInt64.toNat_inj, hmod, Nat.mod_eq_of_lt hfits, eq_comm]
  · next hfits => exact iff_of_false nofun (by omega)

theorem addWord?_eq_some_iff {a b c : UInt64} :
    addWord? a b = some c ↔ c.toNat = a.toNat + b.toNat := by
  have hc := c.toNat_lt_size
  have hmod : (a + b).toNat = (a.toNat + b.toNat) % UInt64.size := UInt64.toNat_add a b
  unfold addWord?
  split
  · next hfits =>
      rw [Option.some_inj, ← UInt64.toNat_inj, hmod, Nat.mod_eq_of_lt hfits, eq_comm]
  · next hfits => exact iff_of_false nofun (by omega)

/-- The nanoseconds of any number of spans that is counted in 32 bits fit in a word. -/
theorem toNat_nanos_mul (d : Duration) (times : UInt32) :
    (d.nanos.toUInt64 * times.toUInt64).toNat = d.nanos * times.toNat := by
  have hword : d.nanos.toUInt64.toNat = d.nanos :=
    UInt64.toNat_ofNat_of_lt (Nat.lt_trans d.nanos_lt (by decide))
  have hfits : d.nanos * times.toNat < 1_000_000_000 * UInt32.size :=
    Nat.mul_lt_mul'' d.nanos_lt times.toNat_lt_size
  rw [UInt64.toNat_mul, hword, UInt32.toNat_toUInt64]
  exact Nat.mod_eq_of_lt (Nat.lt_trans hfits (by decide))

theorem toNat_carry (d : Duration) (times : UInt32) :
    (d.nanos.toUInt64 * times.toUInt64 / 1_000_000_000).toNat =
      d.nanos * times.toNat / 1_000_000_000 := by
  rw [UInt64.toNat_div, toNat_nanos_mul]
  rfl

theorem toNat_rest (d : Duration) (times : UInt32) :
    (d.nanos.toUInt64 * times.toUInt64 % 1_000_000_000).toNat =
      d.nanos * times.toNat % 1_000_000_000 := by
  rw [UInt64.toNat_mod, toNat_nanos_mul]
  rfl

/-- The product in words is there just when some span is the exact product, and it is that span. -/
theorem checkedMul_eq_some_iff {d p : Duration} {times : UInt32} :
    d.checkedMul times = some p ↔ p.toNanos = d.toNanos * times.toNat := by
  have hparts := d.mul_parts times.toNat
  have hword : d.seconds.toUInt64.toNat = d.seconds := UInt64.toNat_ofNat_of_lt d.seconds_lt
  constructor
  · intro h
    obtain ⟨seconds, hmul, h⟩ := Option.bind_eq_some_iff.mp h
    obtain ⟨total, hadd, h⟩ := Option.bind_eq_some_iff.mp h
    cases h
    rw [mulWord?_eq_some_iff, hword, UInt32.toNat_toUInt64] at hmul
    rw [addWord?_eq_some_iff, hmul, toNat_carry] at hadd
    rw [← hparts, toNanos]
    simp only [hadd, toNat_rest]
  · intro h
    have hlt : d.nanos * times.toNat % 1_000_000_000 < 1_000_000_000 := Nat.mod_lt _ (by decide)
    have hp := p.nanos_lt
    have hfits := p.seconds_lt
    -- A number has one quotient and one rest, so the parts of the span are the parts of the product.
    rw [← hparts, toNanos] at h
    have hseconds : p.seconds = d.seconds * times.toNat + d.nanos * times.toNat / 1_000_000_000 := by
      omega
    have hrest : p.nanos = d.nanos * times.toNat % 1_000_000_000 := by omega
    have hproduct : (d.seconds * times.toNat).toUInt64.toNat = d.seconds * times.toNat :=
      UInt64.toNat_ofNat_of_lt (by omega)
    have htotal : p.seconds.toUInt64.toNat = p.seconds := UInt64.toNat_ofNat_of_lt hfits
    refine Option.bind_eq_some_iff.mpr ⟨(d.seconds * times.toNat).toUInt64, ?_,
      Option.bind_eq_some_iff.mpr ⟨p.seconds.toUInt64, ?_, ?_⟩⟩
    · rw [mulWord?_eq_some_iff, hword, UInt32.toNat_toUInt64, hproduct]
    · rw [addWord?_eq_some_iff, hproduct, toNat_carry, htotal, hseconds]
    · rw [Option.pure_def, Option.some_inj]
      apply toNanos_injective
      rw [toNanos, toNanos, hrest]
      dsimp only
      rw [htotal, toNat_rest]

theorem saturatingMul_eq_getD (d : Duration) (times : UInt32) :
    d.saturatingMul times.toNat = (d.checkedMul times).getD greatest := by
  have hsat := d.toNanos_saturatingMul times.toNat
  cases h : d.checkedMul times with
  | some p =>
      have hp := checkedMul_eq_some_iff.mp h
      rw [← hp, Nat.min_eq_left p.toNanos_le_greatest] at hsat
      exact toNanos_injective hsat
  | none =>
      rcases Nat.le_total (d.toNanos * times.toNat) greatest.toNanos with hle | hle
      · rw [Nat.min_eq_left hle] at hsat
        rw [checkedMul_eq_some_iff.mpr hsat] at h
        cases h
      · rw [Nat.min_eq_right hle] at hsat
        exact toNanos_injective hsat

end TestSelection.Duration
