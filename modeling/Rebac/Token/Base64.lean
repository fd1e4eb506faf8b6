namespace Rebac.Token

/-!
# Base 64 without padding

The alphabet for URLs: letters, digits, `-` and `_`, six bits each. The bits that are left over at
the end must be zero, so each byte sequence has one text.
-/

/-- The six bits of a character. -/
def sixBits? (c : Char) : Option Nat :=
  if 'A' ≤ c && c ≤ 'Z' then some (c.toNat - 65)
  else if 'a' ≤ c && c ≤ 'z' then some (c.toNat - 71)
  else if '0' ≤ c && c ≤ '9' then some (c.toNat + 4)
  else if c = '-' then some 62
  else if c = '_' then some 63
  else none

/-- The bytes of groups of six bits, four groups for three bytes. -/
def bytesOfSix : List Nat → Option (List UInt8)
  | [] => some []
  | [_] => none
  | [a, b] => if b % 16 = 0 then some [UInt8.ofNat (a * 4 + b / 16)] else none
  | [a, b, c] =>
    if c % 4 = 0 then
      some [UInt8.ofNat (a * 4 + b / 16), UInt8.ofNat (b % 16 * 16 + c / 4)]
    else none
  | a :: b :: c :: d :: rest => do
    let more ← bytesOfSix rest
    some (UInt8.ofNat (a * 4 + b / 16) :: UInt8.ofNat (b % 16 * 16 + c / 4)
      :: UInt8.ofNat (c % 4 * 64 + d) :: more)

/-- Decodes a text. -/
def base64? (cs : List Char) : Option (List UInt8) := do
  let groups ← cs.mapM sixBits?
  bytesOfSix groups

end Rebac.Token
