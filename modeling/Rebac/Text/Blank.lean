namespace Rebac.Text

/-!
# Blank characters

The property `White_Space` of the Unicode standard, and what is left of a text without the blanks
at its two ends.

* `trim` removes the blanks at both ends.
* `isBlankText` holds of a text of blanks only.
-/

/-- `true` iff `c` is white space: the ASCII blanks, the next-line and no-break characters, and
    the typographic spaces and separators. -/
def isBlank (c : Char) : Bool :=
  let n := c.toNat
  (9 ≤ n && n ≤ 13) || n = 0x20 || n = 0x85 || n = 0xa0 || n = 0x1680
    || (0x2000 ≤ n && n ≤ 0x200a) || n = 0x2028 || n = 0x2029 || n = 0x202f || n = 0x205f
    || n = 0x3000

/-- A list of characters without its blanks at both ends. -/
def trimChars (cs : List Char) : List Char :=
  ((cs.dropWhile isBlank).reverse.dropWhile isBlank).reverse

/-- `s` without its blanks at both ends. -/
def trim (s : String) : String :=
  String.ofList (trimChars s.toList)

/-- `true` iff `s` consists of blanks only, the empty text included. -/
def isBlankText (s : String) : Bool :=
  s.toList.all isBlank

/-- `s` without the characters at its end that satisfy `p`. -/
def dropEndWhile (p : Char → Bool) (s : String) : String :=
  String.ofList (s.toList.reverse.dropWhile p).reverse

end Rebac.Text
