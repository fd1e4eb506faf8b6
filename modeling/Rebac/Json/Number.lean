import Rebac.Decimal.Shortest

namespace Rebac.Json

/-!
# Numbers of JSON text

* `Number` is an integer that fits into 64 bits, signed or unsigned, or else a double.
* `NumberLiteral` collects the digits of a number as they are read, last digit first.
* `NumberLiteral.value` is the number they denote; `none` means that it is too large for a double.
-/

/-- A number: an integer of at most 64 bits, or a double. -/
inductive Number where
  | int (value : Int)
  | float (value : Float)
  deriving Inhabited

/-- Doubles are written positionally from `0.00001` up to sixteen digits before the point. -/
def Number.style : Decimal.Style :=
  ⟨-5, 15⟩

/-- The text of a number. -/
def Number.text : Number → String
  | .int i => toString i
  | .float x => Number.style.text x

/-- The digits of a number, each list with the last digit first. -/
structure NumberLiteral where
  negative : Bool
  whole : List Nat
  fraction : Option (List Nat)
  exponentNegative : Bool
  exponent : Option (List Nat)

/-- The value of a digit list with the last digit first. -/
def digitsValue : List Nat → Nat
  | [] => 0
  | d :: ds => digitsValue ds * 10 + d

/-- The first digits that fit into 64 bits, as a number, with the count of the digits left over. -/
def significandOf : List Nat → Nat → Nat × List Nat
  | [], acc => (acc, [])
  | d :: ds, acc =>
    if acc * 10 + d < 2 ^ 64 then significandOf ds (acc * 10 + d) else (acc, d :: ds)

/-- Divides by `10 ^ 308` as often as `exponent` asks; a zero stays as it is. -/
def descend (x : Float) (exponent : Nat) : Float :=
  if exponent ≤ 308 then x / Float.ofScientific 1 false exponent
  else if x == 0 then x
  else descend (x / Float.ofScientific 1 false 308) (exponent - 308)
termination_by exponent

/-- `significand · 10 ^ exponent` in doubles: the significand is rounded first and scaled after. -/
def scaled (significand : Nat) (exponent : Int) : Option Float :=
  let x := (UInt64.ofNat significand).toFloat
  if exponent < 0 then some (descend x (-exponent).toNat)
  else if exponent ≤ 308 then
    let y := x * Float.ofScientific 1 false exponent.toNat
    if y.isInf then none else some y
  else if x == 0 then some x
  else none

/-- The largest exponent that is still counted. -/
def exponentLimit : Nat := 2 ^ 31 - 1

/-- The double that a literal with a fraction, an exponent or too many digits denotes. -/
def NumberLiteral.double (l : NumberLiteral) : Option Float :=
  let (kept, dropped) := significandOf l.whole.reverse 0
  let fraction := (l.fraction.getD []).reverse
  let (significand, lost) := significandOf fraction kept
  let start : Int := dropped.length - (fraction.length - lost.length : Nat)
  let magnitude :=
    match l.exponent with
    | none => scaled significand start
    | some ds =>
      let e := digitsValue ds
      if exponentLimit < e then
        if significand ≠ 0 && !l.exponentNegative then none else some 0
      else if l.exponentNegative then scaled significand (max (start - e) (-(2 ^ 31)))
      else scaled significand (min (start + e) exponentLimit)
  magnitude.map fun x => if l.negative then -x else x

/-- The number that a complete literal denotes, `none` when it is too large. A negative zero is a
    double, and so is every integer beyond 64 bits. -/
def NumberLiteral.value (l : NumberLiteral) : Option Number :=
  if l.fraction.isNone && l.exponent.isNone then
    let n := digitsValue l.whole
    if l.negative then
      if 0 < n && n ≤ 2 ^ 63 then some (.int (-n))
      else if n < 2 ^ 64 then some (.float (-(UInt64.ofNat n).toFloat))
      else l.double.map .float
    else if n < 2 ^ 64 then some (.int n)
    else l.double.map .float
  else l.double.map .float

end Rebac.Json
