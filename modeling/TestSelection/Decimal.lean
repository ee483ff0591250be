/-!
# Decimal numbers

A decimal number is a sign, a whole number and a power of ten. Numbers of a document that are no
integers are kept as the shortest decimal that reads back as the same double precision number:
`shortest` rounds to double precision and takes the first decimal grid with a point in the interval
of reals that round to that double.
-/
namespace TestSelection

/-- The number `±digits · 10 ^ exponent`. -/
structure Decimal where
  negative : Bool
  digits : Nat
  exponent : Int
  deriving DecidableEq

/-- The magnitude `mantissa · 2 ^ exponent` of a double precision number. -/
structure Binary64 where
  mantissa : Nat
  exponent : Int
  deriving DecidableEq

/-- A number of a document that is no integer. -/
inductive Real
  | finite (d : Decimal)
  | infinite (negative : Bool)
  | undefined
  deriving DecidableEq

/-- A quotient rounded to the nearest whole number, a half to the even one. -/
def roundHalfEven (num den : Nat) : Nat :=
  let q := num / den
  let r := num % den
  if 2 * r < den || (2 * r == den && q % 2 == 0) then q else q + 1

namespace Binary64

/-- The least exponent of a double. -/
def minExponent : Int := -1074

/-- The greatest exponent of a double. -/
def maxExponent : Int := 971

/-- The double nearest to a positive quotient, none when it is beyond the greatest double. -/
def nearest (num den : Nat) : Option Binary64 :=
  let guess : Int := (Nat.log2 num : Int) - Nat.log2 den
  let reached := if 0 ≤ guess then den <<< guess.toNat ≤ num else den ≤ num <<< (-guess).toNat
  let exponent := max ((if reached then guess else guess - 1) - 52) minExponent
  let mantissa :=
    if 0 ≤ exponent then roundHalfEven num (den <<< exponent.toNat)
    else roundHalfEven (num <<< (-exponent).toNat) den
  let rounded : Binary64 :=
    if mantissa = 1 <<< 53 then ⟨1 <<< 52, exponent + 1⟩ else ⟨mantissa, exponent⟩
  if maxExponent < rounded.exponent then none else some rounded

/-- Number of decimal digits of a whole number. -/
def digitCount (n : Nat) : Nat := (Nat.toDigits 10 n).length

/-- The exponent `e` with `10 ^ e ≤ num / den < 10 ^ (e + 1)`. -/
def decimalExponent (num den : Nat) : Int :=
  let guess : Int := (digitCount num : Int) - digitCount den
  let reached :=
    if 0 ≤ guess then den * Nat.pow 10 guess.toNat ≤ num else den ≤ num * Nat.pow 10 (-guess).toNat
  if reached then guess else guess - 1

/-- The point of the grid of `count` digits that rounds to the double, if there is one: one of the
two neighbours of the double's value, the nearer of both. The ends of the interval of reals that
round to the double belong to it when its mantissa is even. -/
def gridPoint? (b : Binary64) (count : Nat) : Option (Nat × Int) :=
  let scale := b.exponent - 2
  let unit := if 0 ≤ scale then 1 <<< scale.toNat else 1
  let den := if 0 ≤ scale then 1 else 1 <<< (-scale).toNat
  let value := 4 * b.mantissa * unit
  let belowGap := if b.mantissa == 1 <<< 52 && minExponent < b.exponent then 1 else 2
  let low := (4 * b.mantissa - belowGap) * unit
  let high := (4 * b.mantissa + 2) * unit
  let grid := decimalExponent value den - count + 1
  let up := if 0 ≤ grid then 1 else Nat.pow 10 (-grid).toNat
  let step := den * if 0 ≤ grid then Nat.pow 10 grid.toNat else 1
  let inside (c : Nat) : Bool :=
    if b.mantissa % 2 == 0 then low * up ≤ c * step && c * step ≤ high * up
    else low * up < c * step && c * step < high * up
  let c := value * up / step
  match inside c, inside (c + 1) with
  | true, true => some (roundHalfEven (value * up) step, grid)
  | true, false => some (c, grid)
  | false, true => some (c + 1, grid)
  | false, false => none

/-- The fewest digits that read back as the double; seventeen always do. -/
def shortestDigits (b : Binary64) : Nat × Int :=
  if b.mantissa = 0 then (0, 0)
  else ((List.range 17).findSome? fun n => gridPoint? b (n + 1)).getD (0, 0)

end Binary64

namespace Decimal

/-- Moves the zeros at the end of the digits into the exponent. -/
def trimZeros (digits : Nat) (exponent : Int) : Nat × Int :=
  if h : digits ≠ 0 ∧ digits % 10 = 0 then trimZeros (digits / 10) (exponent + 1)
  else (digits, exponent)
termination_by digits
decreasing_by omega

/-- The magnitude rounded to double precision, none when it is too great. A number of more than
three hundred and ten digits before the point is too great, one with as many zeros after the point
as no double has is zero. -/
def toBinary64? (d : Decimal) : Option Binary64 :=
  let point := (Binary64.digitCount d.digits : Int) + d.exponent
  if d.digits = 0 || point < -330 then some ⟨0, 0⟩
  else if 310 < point then none
  else if 0 ≤ d.exponent then Binary64.nearest (d.digits * Nat.pow 10 d.exponent.toNat) 1
  else Binary64.nearest d.digits (Nat.pow 10 (-d.exponent).toNat)

/-- The shortest decimal that stands for the same double, none when there is no such double. -/
def shortest? (d : Decimal) : Option Decimal :=
  d.toBinary64?.map fun b =>
    let (digits, exponent) := b.shortestDigits
    let (digits, exponent) := trimZeros digits exponent
    ⟨d.negative, digits, if digits = 0 then 0 else exponent⟩

/-- The whole number that a run of decimal digits stands for. -/
def digitsValue (cs : List Char) : Nat :=
  cs.foldl (fun n c => 10 * n + (c.toNat - '0'.toNat)) 0

/-- The exponent part of a decimal text: nothing, or `e`, a sign and digits. -/
def exponentOfText? : List Char → Option Int
  | [] => some 0
  | c :: rest =>
    if c != 'e' && c != 'E' then none
    else
      let (negative, digits) := match rest with
        | '-' :: r => (true, r)
        | '+' :: r => (false, r)
        | r => (false, r)
      if digits.isEmpty || !digits.all Char.isDigit then none
      else some (if negative then -(digitsValue digits : Int) else digitsValue digits)

/-- Reads an unsigned decimal text: digits with an optional point, then an optional exponent; at
least one digit stands on one side of the point. -/
def ofText? (cs : List Char) : Option Decimal :=
  let whole := cs.takeWhile Char.isDigit
  let (fraction, rest) := match cs.dropWhile Char.isDigit with
    | '.' :: r => (r.takeWhile Char.isDigit, r.dropWhile Char.isDigit)
    | r => ([], r)
  if whole.isEmpty && fraction.isEmpty then none
  else (exponentOfText? rest).map fun e =>
    ⟨false, digitsValue (whole ++ fraction), e - fraction.length⟩

/-- The text of a decimal. Its point stands after `point` of the digits; where `positional` allows
that position the number is written out, elsewhere with one digit before the point and an exponent.
A number written out always shows a point. -/
def render (positional : Int → Bool) (d : Decimal) : String :=
  let ds := Nat.toDigits 10 d.digits
  let point := (ds.length : Int) + d.exponent
  let zeros (n : Int) : List Char := List.replicate n.toNat '0'
  let body :=
    if d.digits = 0 then "0.0".toList
    else if positional point then
      if point ≤ 0 then "0.".toList ++ zeros (-point) ++ ds
      else if (ds.length : Int) ≤ point then ds ++ zeros (point - ds.length) ++ ".0".toList
      else ds.take point.toNat ++ '.' :: ds.drop point.toNat
    else
      let fraction := match ds.drop 1 with
        | [] => []
        | r => '.' :: r
      ds.take 1 ++ fraction ++ 'e' :: (toString (point - 1)).toList
  String.ofList (if d.negative then '-' :: body else body)

end Decimal

end TestSelection
