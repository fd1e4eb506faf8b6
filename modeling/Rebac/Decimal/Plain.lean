import Rebac.Decimal.Shortest

namespace Rebac.Decimal

/-!
# Doubles without exponents

* `plainText` writes a double with all its digits before and after the point, and without a point if
  it is whole.
* `ofDigits` is the double nearest to a decimal.
-/

/-- A decimal written out in full. -/
def plain (s : Scientific) : String :=
  if 0 ≤ s.exponent then
    String.ofList (Nat.toDigits 10 (s.digits * 10 ^ s.exponent.toNat))
  else
    let places := (-s.exponent).toNat
    let ds := Nat.toDigits 10 s.digits
    let ds := zeros (places + 1 - ds.length) ++ ds
    let fraction := ((ds.drop (ds.length - places)).reverse.dropWhile (· = '0')).reverse
    let whole := ds.take (ds.length - places)
    String.ofList (if fraction.isEmpty then whole else whole ++ '.' :: fraction)

/-- A double written with the fewest digits that read back, and without an exponent. -/
def plainText (x : Float) : String :=
  let sign := if x.toBits.toNat / 2 ^ 63 = 1 then "-" else ""
  match Binary.ofFloat? x with
  | none => if x.isNaN then "NaN" else sign ++ "inf"
  | some b =>
    if b.significand = 0 then sign ++ "0"
    else match shortest b with
      | some s => sign ++ plain s
      | none => sign ++ "0"

/-- The double nearest to `digits · 10 ^ exponent`. Exponents beyond the range of doubles are not
    worked out. -/
def ofDigits (negative : Bool) (digits : Nat) (exponent : Int) : Float :=
  let size : Int := (Nat.toDigits 10 digits).length
  let magnitude : Float :=
    if digits = 0 || exponent + size < -400 then 0
    else if 400 < exponent + size then 1 / 0
    else if exponent < 0 then Float.ofScientific digits true (-exponent).toNat
    else Float.ofScientific digits false exponent.toNat
  if negative then -magnitude else magnitude

end Rebac.Decimal
