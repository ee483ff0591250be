/-!
# Time spans

A time span counts whole seconds in 64 bits and the nanoseconds of a started second. Multiplying
stops at the greatest span instead of overflowing.
-/
namespace TestSelection

structure Duration where
  seconds : Nat
  nanos : Nat
  seconds_lt : seconds < UInt64.size
  nanos_lt : nanos < 1_000_000_000
  deriving DecidableEq

namespace Duration

/-- The greatest span. -/
def greatest : Duration where
  seconds := UInt64.size - 1
  nanos := 1_000_000_000 - 1
  seconds_lt := by decide
  nanos_lt := by decide

/-- The length of a span in nanoseconds. -/
def toNanos (d : Duration) : Nat :=
  d.seconds * 1_000_000_000 + d.nanos

def ofMillis (ms : UInt64) : Duration where
  seconds := ms.toNat / 1_000
  nanos := ms.toNat % 1_000 * 1_000_000
  seconds_lt := by have := ms.toNat_lt_size; omega
  nanos_lt := by omega

/-- A span taken several times, each part by itself with the carry of the nanoseconds, or the
greatest span when the seconds do not fit. -/
def saturatingMul (d : Duration) (times : Nat) : Duration :=
  let nanos := d.nanos * times
  let seconds := d.seconds * times + nanos / 1_000_000_000
  if h : seconds < UInt64.size then
    { seconds
      nanos := nanos % 1_000_000_000
      seconds_lt := h
      nanos_lt := Nat.mod_lt _ (by decide) }
  else greatest

/-- A fraction of some number of decimal places without the zeros at its end. -/
def fractionText (value places : Nat) : String :=
  let digits := Nat.toDigits 10 value
  let padded := List.replicate (places - digits.length) '0' ++ digits
  let kept := (padded.reverse.dropWhile (· == '0')).reverse
  if kept.isEmpty then "" else "." ++ String.ofList kept

/-- The span in its largest fitting unit. -/
def text (d : Duration) : String :=
  if 0 < d.seconds then toString d.seconds ++ fractionText d.nanos 9 ++ "s"
  else if 1_000_000 ≤ d.nanos then
    toString (d.nanos / 1_000_000) ++ fractionText (d.nanos % 1_000_000) 6 ++ "ms"
  else if 1_000 ≤ d.nanos then
    toString (d.nanos / 1_000) ++ fractionText (d.nanos % 1_000) 3 ++ "µs"
  else toString d.nanos ++ "ns"

theorem toNanos_ofMillis (ms : UInt64) : (ofMillis ms).toNanos = ms.toNat * 1_000_000 := by
  simp only [toNanos, ofMillis]
  omega

end Duration

end TestSelection
