import Rebac.Power

namespace Rebac.Decimal

/-!
# The shortest decimal of a binary fraction

A finite double is `m · 2 ^ q` and stands for every real that rounds to it. Its shortest decimal is
the one with the fewest digits among those reals, and of two with equally many digits the nearer.

* `Binary` is the pair of significand and exponent, `Binary.ofFloat?` reads it off the bits.
* `shortest` tries one digit, then two, up to seventeen, which always suffice.
-/

/-- The number `significand · 2 ^ exponent`; `atPowerOfTwo` says that the next smaller double is
    only half as far away as the next larger one. -/
structure Binary where
  significand : Nat
  exponent : Int
  atPowerOfTwo : Bool

/-- The number `digits · 10 ^ exponent`. -/
structure Scientific where
  digits : Nat
  exponent : Int
  deriving DecidableEq

/-- The magnitude of a finite double, `none` for infinities and for what is not a number. -/
def Binary.ofFloat? (x : Float) : Option Binary :=
  let bits := x.toBits.toNat
  let fraction : Nat := bits % 2 ^ 52
  let biased : Nat := bits / 2 ^ 52 % 2 ^ 11
  if biased = 2047 then none
  else if biased = 0 then some ⟨fraction, -1074, false⟩
  else some ⟨fraction + 2 ^ 52, (biased : Int) - 1075, fraction = 0 && biased ≠ 1⟩

/-- A non-negative fraction of naturals; the denominator is positive. -/
structure Ratio where
  num : Nat
  den : Nat

/-- `true` iff the first fraction is below the second. -/
def Ratio.lt (a b : Ratio) : Bool :=
  a.num * b.den < b.num * a.den

/-- `true` iff the first fraction is at most the second. -/
def Ratio.le (a b : Ratio) : Bool :=
  a.num * b.den ≤ b.num * a.den

/-- `n · base ^ e` as a fraction. -/
def Ratio.scaled (n base : Nat) (e : Int) : Ratio :=
  if 0 ≤ e then ⟨n * base ^ e.toNat, 1⟩ else ⟨n, base ^ (-e).toNat⟩

/-- The decimal exponent of the first digit of a positive fraction: the largest `e` with
    `10 ^ e ≤ r`, searched upwards from `start` for at most `fuel` steps. -/
def Ratio.leadingExponent (r : Ratio) : Nat → Int → Int
  | 0, start => start
  | fuel + 1, start =>
    if Ratio.le (Ratio.scaled 1 10 (start + 1)) r then r.leadingExponent fuel (start + 1) else start

/-- The reals that round to a double, as the ends of an interval in quarters of its unit. -/
def Binary.bounds (b : Binary) : Ratio × Ratio :=
  (Ratio.scaled (4 * b.significand - if b.atPowerOfTwo then 1 else 2) 2 (b.exponent - 2),
    Ratio.scaled (4 * b.significand + 2) 2 (b.exponent - 2))

/-- `true` iff the decimal rounds to the double. The ends count for an even significand. -/
def Binary.reads (b : Binary) (s : Scientific) : Bool :=
  let r := Ratio.scaled s.digits 10 s.exponent
  let (lower, upper) := b.bounds
  if b.significand % 2 = 0 then Ratio.le lower r && Ratio.le r upper
  else Ratio.lt lower r && Ratio.lt r upper

/-- The best decimal among the two neighbours of the double on the grid of `10 ^ exponent`. -/
def Binary.onGrid? (b : Binary) (value : Ratio) (exponent : Int) : Option Scientific :=
  let unit := Ratio.scaled 1 10 exponent
  let below := value.num * unit.den / (value.den * unit.num)
  let down : Scientific := ⟨below, exponent⟩
  let up : Scientific := ⟨below + 1, exponent⟩
  let twice := 2 * (value.num * unit.den)
  let middle := (2 * below + 1) * (value.den * unit.num)
  let downFirst := twice < middle || (twice = middle && below % 2 = 0)
  match b.reads down && 0 < below, b.reads up with
  | true, true => some (if downFirst then down else up)
  | true, false => some down
  | false, true => some up
  | false, false => none

/-- The first grid, of at most `count` more, that holds a decimal that reads back. -/
def Binary.search (b : Binary) (value : Ratio) : Nat → Int → Option Scientific
  | 0, _ => none
  | count + 1, exponent =>
    match b.onGrid? value exponent with
    | some s => some s
    | none => b.search value count (exponent - 1)

/-- The shortest decimal of a positive double. -/
def shortest (b : Binary) : Option Scientific :=
  let value := Ratio.scaled b.significand 2 b.exponent
  let leading := value.leadingExponent 640 (-330)
  b.search value 18 leading

/-! ### Positional and scientific notation -/

/-- How a double is written: positionally while the exponent of its first digit lies between the two
    bounds, scientifically beyond them. -/
structure Style where
  leastPositional : Int
  greatestPositional : Int

/-- `n` zeros. -/
def zeros (n : Nat) : List Char :=
  List.replicate n '0'

/-- A decimal without a leading zero digit, written in the given style: a point always stands
    between two digits, and an exponent has a sign and at least two digits. -/
def Style.render (style : Style) (s : Scientific) : String :=
  let ds := Nat.toDigits 10 s.digits
  let ds := (ds.reverse.dropWhile (· = '0')).reverse
  let leading : Int := (Nat.toDigits 10 s.digits).length + s.exponent - 1
  if style.leastPositional ≤ leading && leading ≤ style.greatestPositional then
    if leading < 0 then
      String.ofList (['0', '.'] ++ zeros ((-leading).toNat - 1) ++ ds)
    else
      let whole := leading.toNat + 1
      if ds.length ≤ whole then
        String.ofList (ds ++ zeros (whole - ds.length) ++ ['.', '0'])
      else String.ofList (ds.take whole ++ ['.'] ++ ds.drop whole)
  else
    let mantissa := match ds with
      | [] => []
      | [d] => [d]
      | d :: rest => d :: '.' :: rest
    let size := Nat.toDigits 10 leading.natAbs
    let size := zeros (2 - size.length) ++ size
    String.ofList (mantissa ++ ['e', if leading < 0 then '-' else '+'] ++ size)

/-- The text of a double in the given style. -/
def Style.text (style : Style) (x : Float) : String :=
  let sign := if x.toBits.toNat / 2 ^ 63 = 1 then "-" else ""
  match Binary.ofFloat? x with
  | none => if x.isNaN then "NaN" else sign ++ "inf"
  | some b =>
    if b.significand = 0 then sign ++ "0.0"
    else match shortest b with
      | some s => sign ++ style.render s
      | none => sign ++ "0.0"

end Rebac.Decimal
