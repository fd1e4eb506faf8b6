namespace Rebac.Tls

/-!
# Sections of a PEM file

A file holds sections between a line `-----BEGIN label-----` and a line `-----END label-----`, with
their bytes in base 64. What stands outside of sections is skipped, and so are sections with an
unknown label.

* `Armour.decode` reads the bytes of a section.
* `sections` are the sections in front of the first mistake, together with that mistake.
-/

/-! ### Base 64 -/

/-- Why the text of a section stands for no bytes. -/
inductive ArmourError where
  | invalidCharacter (byte : UInt8)
  | prematurePadding
  | invalidTrailingPadding

/-- The wording of the reason. -/
def ArmourError.message : ArmourError → String
  | invalidCharacter b => s!"InvalidCharacter({b})"
  | prematurePadding => "PrematurePadding"
  | invalidTrailingPadding => "InvalidTrailingPadding"

/-- What a byte of the text stands for. -/
inductive Sign where
  | digit (value : Nat)
  | padding
  | blank
  | other

namespace Armour

/-- What a byte stands for. -/
def sign (b : UInt8) : Sign :=
  let n := b.toNat
  if 65 ≤ n && n ≤ 90 then .digit (n - 65)
  else if 97 ≤ n && n ≤ 122 then .digit (n - 71)
  else if 48 ≤ n && n ≤ 57 then .digit (n + 4)
  else if n = 43 then .digit 62
  else if n = 47 then .digit 63
  else if n = 61 then .padding
  else if n = 32 || (9 ≤ n && n ≤ 13) then .blank
  else .other

/-- The bytes of four digits. -/
def quad (a b c d : Nat) : List UInt8 :=
  [UInt8.ofNat (a * 4 + b / 16), UInt8.ofNat (b % 16 * 16 + c / 4), UInt8.ofNat (c % 4 * 64 + d)]

/-- The bytes of the last block; padding is `none`. Padding may be left out. -/
def lastBlock : List (Option Nat) → Except ArmourError (List UInt8)
  | [] => .ok []
  | [some a, some b] | [some a, some b, none, none] => .ok ((quad a b 0 0).take 1)
  | [some a, some b, some c] | [some a, some b, some c, none] => .ok ((quad a b c 0).take 2)
  | [some a, some b, some c, some d] => .ok (quad a b c d)
  | a :: b :: c :: d :: rest =>
    match a, b, c, d with
    | some a, some b, some c, some d => do
      let more ← lastBlock rest
      .ok (quad a b c d ++ more)
    | _, _, _, _ => if rest.isEmpty then .error .invalidTrailingPadding else .error .prematurePadding
  | _ => .error .invalidTrailingPadding

/-- The bytes of a text. Eight digits are taken together, and padding among them is only noticed when
    a ninth follows. -/
def decodeFrom (block : List (Option Nat)) : List UInt8 → Except ArmourError (List UInt8)
  | [] => lastBlock block
  | b :: rest =>
    match sign b with
    | .blank => decodeFrom block rest
    | .other => .error (.invalidCharacter b)
    | .digit v => add (some v) rest
    | .padding => add none rest
where
  /-- Adds a digit or padding to the block. -/
  add (d : Option Nat) (rest : List UInt8) : Except ArmourError (List UInt8) :=
    if block.length < 8 then decodeFrom (block ++ [d]) rest
    else if block.all Option.isSome then do
      let bytes ← lastBlock block
      let more ← decodeFrom [d] rest
      .ok (bytes ++ more)
    else .error .prematurePadding

/-- The bytes of a text. -/
def decode (text : List UInt8) : Except ArmourError (List UInt8) :=
  decodeFrom [] text

end Armour

/-! ### Sections -/

/-- The kinds of sections. -/
inductive SectionKind where
  | certificate
  | publicKey
  | rsaPrivateKey
  | privateKey
  | ecPrivateKey
  | revocationList
  | certificateRequest
  | encryptedHello
  deriving DecidableEq

/-- All kinds of sections. -/
def SectionKind.all : List SectionKind :=
  [certificate, publicKey, rsaPrivateKey, privateKey, ecPrivateKey, revocationList,
    certificateRequest, encryptedHello]

/-- The label of a section. -/
def SectionKind.label : SectionKind → String
  | certificate => "CERTIFICATE"
  | publicKey => "PUBLIC KEY"
  | rsaPrivateKey => "RSA PRIVATE KEY"
  | privateKey => "PRIVATE KEY"
  | ecPrivateKey => "EC PRIVATE KEY"
  | revocationList => "X509 CRL"
  | certificateRequest => "CERTIFICATE REQUEST"
  | encryptedHello => "ECHCONFIG"

/-- The bytes of an ASCII text. -/
def asciiBytes (s : String) : List UInt8 :=
  s.toList.map fun c => UInt8.ofNat c.toNat

/-- The kind of a label. -/
def SectionKind.ofLabel? (label : List UInt8) : Option SectionKind :=
  all.find? fun k => asciiBytes k.label = label

/-- A section. -/
structure Section where
  kind : SectionKind
  content : List UInt8

/-- What is wrong with a file. -/
inductive PemError where
  | missingEnd (label : List UInt8)
  | badStart (line : List UInt8)
  | badContent (e : ArmourError)
  | nothing

/-- Bytes as a list of numbers. -/
def byteListText (bs : List UInt8) : String :=
  "[" ++ ", ".intercalate (bs.map fun b => toString b) ++ "]"

/-- The wording of the mistake. -/
def PemError.message : PemError → String
  | missingEnd label => "missing section end marker: " ++ byteListText label
  | badStart line => "illegal section start: " ++ byteListText line
  | badContent e => "base64 decode error: " ++ e.message
  | nothing => "no items found"

/-- The lines of a file. Each line feed and each carriage return ends a line; what follows the last
    one is a line unless it is empty. -/
def linesFrom (current : List UInt8) : List UInt8 → List (List UInt8)
  | [] => if current.isEmpty then [] else [current.reverse]
  | b :: rest =>
    if b = 10 || b = 13 then current.reverse :: linesFrom [] rest
    else linesFrom (b :: current) rest

/-- What the first line of a section starts with. -/
def sectionStart : List UInt8 := asciiBytes "-----BEGIN "

/-- What the last line of a section starts with, in front of its label. -/
def sectionEnd : List UInt8 := asciiBytes "-----END "

/-- The dash. -/
def dash : UInt8 := 45

/-- The label of a line that starts a section, `none` unless five dashes end it. Spaces among and
    behind the dashes do not count. -/
def labelOf? (line : List UInt8) : Option (List UInt8) :=
  let tail := line.reverse.takeWhile fun b => b = dash || b = 32
  let dashes := tail.filter (· = dash)
  let spaces := (tail.reverse.takeWhile (· = 32)).length
  if dashes.length = 5 then
    some ((line.take (line.length - tail.length + spaces)).drop sectionStart.length)
  else none

/-- `true` iff a line ends the section of that label. -/
def isEndOf (label line : List UInt8) : Bool :=
  (sectionEnd ++ label ++ List.replicate 5 dash).isPrefixOf line

/-- The sections of lines in front of the first mistake, and that mistake. `label` is that of the open
    section, `text` what has been read of it. -/
def sectionsFrom (label : Option (List UInt8)) (text : List UInt8) :
    List (List UInt8) → List Section × Option PemError
  | [] => ([], label.map .missingEnd)
  | line :: rest =>
    if sectionStart.isPrefixOf line then
      match labelOf? line with
      | some label => sectionsFrom (some label) text rest
      | none => ([], some (.badStart line))
    else
      match label with
      | none => sectionsFrom none text rest
      | some l =>
        if isEndOf l line then
          match SectionKind.ofLabel? l with
          | none => sectionsFrom none [] rest
          | some kind =>
            match Armour.decode text with
            | .error e => ([], some (.badContent e))
            | .ok content =>
              let (more, mistake) := sectionsFrom none [] rest
              (⟨kind, content⟩ :: more, mistake)
        else sectionsFrom (some l) (text ++ line) rest

/-- The sections of a file in front of the first mistake, and that mistake. -/
def sections (file : List UInt8) : List Section × Option PemError :=
  sectionsFrom none [] (linesFrom [] file)

end Rebac.Tls
