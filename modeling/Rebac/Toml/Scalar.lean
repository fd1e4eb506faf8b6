import Rebac.Decimal.Plain
import Rebac.Toml.Text

namespace Rebac.Toml

/-!
# Numbers, truth values and dates

All of them are single words, except that a blank may stand between a date and its time.

* `scalarOf?` is the value of a word.
-/

/-- The value of a digit below the given base. -/
def digitIn? (base : Nat) (c : Char) : Option Nat :=
  (hexDigit? c).filter (· < base)

/-- The digits of a group in which single underscores may stand between two digits. -/
def digits? (base : Nat) : List Char → Option (List Nat)
  | [] => none
  | [c] => (digitIn? base c).map ([·])
  | c :: '_' :: rest => do
    let d ← digitIn? base c
    some (d :: (← digits? base rest))
  | c :: rest => do
    let d ← digitIn? base c
    some (d :: (← digits? base rest))

/-- The number of digits of a base. -/
def numberOf (base : Nat) (digits : List Nat) : Nat :=
  digits.foldl (fun n d => n * base + d) 0

/-- A sign and what follows it. -/
def signed : List Char → Bool × List Char
  | '+' :: rest => (false, rest)
  | '-' :: rest => (true, rest)
  | cs => (false, cs)

/-- A decimal number without a leading zero. -/
def decimal? (cs : List Char) : Option Nat := do
  let digits ← digits? 10 cs
  if digits.head? = some 0 && 1 < digits.length then none else some (numberOf 10 digits)

/-- An integer of 64 bits. -/
def integer? (cs : List Char) : Option Int := do
  let value : Int ←
    match cs with
    | '0' :: 'x' :: rest => (digits? 16 rest).map fun ds => (numberOf 16 ds : Int)
    | '0' :: 'o' :: rest => (digits? 8 rest).map fun ds => (numberOf 8 ds : Int)
    | '0' :: 'b' :: rest => (digits? 2 rest).map fun ds => (numberOf 2 ds : Int)
    | cs =>
      let (negative, rest) := signed cs
      (decimal? rest).map fun n => if negative then -(n : Int) else n
  if -2 ^ 63 ≤ value && value < 2 ^ 63 then some value else none

/-- A double: a whole part, then a fraction or an exponent or both; infinity is only written by
    name. -/
def float? (cs : List Char) : Option Float :=
  let (negative, rest) := signed cs
  if rest = "inf".toList then some (if negative then -(1 / 0) else 1 / 0)
  else if rest = "nan".toList then some (0 / 0)
  else do
    let isExponent : Char → Bool := fun c => c = 'e' || c = 'E'
    let mantissa := rest.takeWhile (!isExponent ·)
    let whole := mantissa.takeWhile (· ≠ '.')
    let n ← decimal? whole
    let fraction ← match mantissa.dropWhile (· ≠ '.') with
      | [] => some []
      | _ :: digits => digits? 10 digits
    let exponent : Int ← match rest.dropWhile (!isExponent ·) with
      | [] => if fraction.isEmpty then none else some 0
      | _ :: power =>
        let (down, power) := signed power
        (digits? 10 power).map fun ds => if down then -(numberOf 10 ds : Int) else numberOf 10 ds
    let digits := fraction.foldl (fun n d => n * 10 + d) n
    let x := Decimal.ofDigits negative digits (exponent - fraction.length)
    if x.isInf then none else some x

/-- The number of exactly `n` decimal digits, within bounds. -/
def field? (n low high : Nat) (cs : List Char) : Option Nat := do
  let ds ← cs.mapM (digitIn? 10)
  let value := numberOf 10 ds
  if ds.length = n && low ≤ value && value ≤ high then some value else none

/-- The number of days of a month. -/
def daysIn (year month : Nat) : Nat :=
  if month = 2 then
    if year % 4 = 0 && (year % 100 ≠ 0 || year % 400 = 0) then 29 else 28
  else if month = 4 || month = 6 || month = 9 || month = 11 then 30
  else 31

/-- `true` iff the text is a date. -/
def isDate (cs : List Char) : Bool :=
  match cs with
  | [a, b, c, d, '-', e, f, '-', g, h] =>
    match field? 4 0 9999 [a, b, c, d], field? 2 1 12 [e, f] with
    | some year, some month => (field? 2 1 (daysIn year month) [g, h]).isSome
    | _, _ => false
  | _ => false

/-- What follows a time of day at the front of a text: hour, minute, second, and perhaps a fraction
    of a second. -/
def afterTime? (cs : List Char) : Option (List Char) :=
  match cs with
  | a :: b :: ':' :: c :: d :: ':' :: e :: f :: rest => do
    let _ ← field? 2 0 23 [a, b]
    let _ ← field? 2 0 59 [c, d]
    let _ ← field? 2 0 60 [e, f]
    match rest with
    | '.' :: more =>
      if more.head?.any Char.isDigit then some (more.dropWhile Char.isDigit) else none
    | rest => some rest
  | _ => none

/-- `true` iff the text is a distance from universal time, or nothing. -/
def isOffset (cs : List Char) : Bool :=
  match cs with
  | [] => true
  | ['Z'] | ['z'] => true
  | [sign, a, b, ':', c, d] =>
    (sign = '+' || sign = '-') && (field? 2 0 23 [a, b]).isSome && (field? 2 0 59 [c, d]).isSome
  | _ => false

/-- `true` iff the text is a date, a time of day, or both. -/
def isMoment (cs : List Char) : Bool :=
  if isDate cs then true
  else
    match afterTime? cs with
    | some rest => rest.isEmpty
    | none =>
      match cs.drop 10 with
      | separator :: time =>
        isDate (cs.take 10) && (separator = 'T' || separator = 't' || separator = ' ')
          && (afterTime? time).any isOffset
      | [] => false

/-- The value of a word. -/
def scalarOf? (cs : List Char) : Option Literal :=
  if cs = "true".toList then some (.flag true)
  else if cs = "false".toList then some (.flag false)
  else if isMoment cs then some (.date (String.ofList cs))
  else
    match integer? cs with
    | some i => some (.integer i)
    | none => (float? cs).map .float

/-- A character of a word. -/
def isWordChar (c : Char) : Bool :=
  c.isAlphanum || "+-_.:".toList.contains c

/-- A number, a truth value or a date. -/
def readScalar : Reader Literal := fun cs =>
  let word := cs.takeWhile isWordChar
  let rest := cs.dropWhile isWordChar
  let (word, rest) :=
    match rest with
    | ' ' :: c :: more =>
      if isDate word && c.isDigit then
        (word ++ ' ' :: (c :: more).takeWhile isWordChar, (c :: more).dropWhile isWordChar)
      else (word, rest)
    | _ => (word, rest)
  (scalarOf? word).map fun v => (v, rest)

end Rebac.Toml
