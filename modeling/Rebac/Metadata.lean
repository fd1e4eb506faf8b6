import Rebac.Text.Blank
import Rebac.Json.Text

namespace Rebac

/-!
# Metadata of a call

A call carries named values in the order in which they were added. Names are compared without regard
to case and kept in lower case; values are bytes, and only those of visible ASCII characters and
tabs can be read as text.
-/

/-- A named value of a call. -/
structure Header where
  /-- The name, in lower case. -/
  name : String
  value : List UInt8
  deriving DecidableEq

/-- The named values of a call in their order. -/
abbrev Metadata := List Header

namespace Header

/-- A character that may stand in a name. -/
def isNameChar (c : Char) : Bool :=
  ('a' ≤ c && c ≤ 'z') || ('A' ≤ c && c ≤ 'Z') || ('0' ≤ c && c ≤ '9')
    || "!#$%&'*+-.^_`|~".toList.contains c

/-- `true` iff the string is a name. -/
def isName (s : String) : Bool :=
  !s.isEmpty && s.length ≤ 65535 && s.toList.all isNameChar

/-- A byte that may stand in a value: any but the control characters, the tab excepted. -/
def isValueByte (b : UInt8) : Bool :=
  (0x20 ≤ b && b ≠ 0x7f) || b = 9

/-- A byte that can be read as text. -/
def isTextByte (b : UInt8) : Bool :=
  (0x20 ≤ b && b < 0x7f) || b = 9

/-- The lower-case form of a name. -/
def foldName (s : String) : String :=
  s.toLower

/-- The named value of a name and a text; `none` if either cannot stand in a call. Names that end in
    `-bin` are kept for values that are not text. -/
def ofText? (name value : String) : Option Header :=
  if isName name && !(foldName name).endsWith "-bin" && (Json.bytesOfText value).all isValueByte then
    some ⟨foldName name, Json.bytesOfText value⟩
  else none

/-- The value as text. -/
def text? (h : Header) : Option String :=
  if h.value.all isTextByte then some (String.ofList (h.value.map fun b => Char.ofNat b.toNat))
  else none

end Header

/-- The first value of that name. -/
def Metadata.first? (m : Metadata) (name : String) : Option Header :=
  m.find? fun h => h.name = name

end Rebac
