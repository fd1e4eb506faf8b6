import Rebac.Tls.Der

namespace Rebac.Tls

/-!
# Certificates

Only the public key of a certificate is of interest; the rest is checked for its form.

* `Certificate.publicKey` is the description of the key that a certificate is about.
-/

/-- What is wrong with a certificate. -/
inductive CertificateError where
  | encoding
  | version
  | algorithms
  | criticalExtension
  | repeatedExtension

/-- The wording of what is wrong. -/
def CertificateError.message : CertificateError → String
  | encoding => "BadEncoding"
  | version => "Other(OtherError(UnsupportedCertVersion))"
  | algorithms => "Other(OtherError(SignatureAlgorithmMismatch))"
  | criticalExtension => "Other(OtherError(UnsupportedCriticalExtension))"
  | repeatedExtension => "Other(OtherError(ExtensionValueInvalid))"

namespace Certificate

open Der

/-- A reader of parts of a certificate. -/
abbrev Reader (α : Type) := StateT (List UInt8) (Except CertificateError) α

/-- Reads values that must have the right form. -/
def formed {α : Type} (r : Der.Reader α) : Reader α := fun bs =>
  match r bs with
  | some found => .ok found
  | none => .error .encoding

/-- Reads all of a byte sequence. -/
def readWhole {α : Type} (r : Reader α) (bs : List UInt8) : Except CertificateError α :=
  match r bs with
  | .ok (a, []) => .ok a
  | .ok (_, _) => .error .encoding
  | .error e => .error e

/-- The extensions with a meaning, by the last byte of their identifier. -/
def knownExtensions : List UInt8 := [15, 17, 19, 30, 31, 37]

/-- The extension whose value is a sequence of bits; the values of the others are sequences. -/
def keyUsage : UInt8 := 15

/-- Reads one extension. `seen` are the known extensions in front of it. -/
def extension (seen : List UInt8) : Reader (List UInt8) := do
  let id ← formed (expect .identifier)
  let critical ← formed (do
    if ← nextIs .boolean then
      match ← expect .boolean with
      | [0xff] => pure true
      | [0x00] => pure false
      | _ => failure
    else pure false)
  let value ← formed (expect .octetString)
  formed finish
  match id with
  | [0x55, 0x1d, n] =>
    if knownExtensions.contains n then
      if seen.contains n then throw .repeatedExtension
      else if n = keyUsage then pure (n :: seen)
      else
        match readAll (expect .sequence) value with
        | some _ => pure (n :: seen)
        | none => throw .encoding
    else refused critical
  | _ => refused critical
where
  /-- An extension without a meaning may stand there unless it is critical. -/
  refused (critical : Bool) : Reader (List UInt8) :=
    if critical then throw .criticalExtension else pure seen

/-- Checks extensions, at most `fuel` of them; each takes at least one byte. -/
def extensions (seen : List UInt8) : (fuel : Nat) → List UInt8 → Except CertificateError Unit
  | _, [] => .ok ()
  | 0, _ :: _ => .error .encoding
  | fuel + 1, bs =>
    match expect .sequence bs with
    | none => .error .encoding
    | some (content, rest) => do
      let seen ← readWhole (extension seen) content
      extensions seen fuel rest

/-- Reads what is signed, given the algorithm of the signature, up to the description of the key,
    which is the result; the extensions behind it are checked. -/
def signedPart (algorithm : List UInt8) : Reader (List UInt8) := do
  match ← formed (within .part0 (expect .integer)) with
  | [2] => pure ()
  | [n] => throw (if n < 0x80 then .version else .encoding)
  | _ => throw .encoding
  let _ ← formed (expect .integer)
  let stated ← formed (expect .sequence)
  if stated ≠ algorithm then throw .algorithms
  let _ ← formed (expect .sequence)
  let _ ← formed (expect .sequence)
  let _ ← formed (expect .sequence)
  let key ← formed (expect .sequence)
  if (← get).isEmpty then pure key
  else
    let content ← formed (within .part3 (expect .sequence))
    match extensions [] content.length content with
    | .ok () => pure key
    | .error e => throw e

/-- The description of the key that a certificate is about. -/
def publicKey (certificate : List UInt8) : Except CertificateError (List UInt8) := do
  let (signed, algorithm) ← readWhole (formed (within .sequence (do
    let signed ← expect .sequence
    let algorithm ← expect .sequence
    let _ ← wholeBits
    pure (signed, algorithm)))) certificate
  readWhole (signedPart algorithm) signed

end Certificate

end Rebac.Tls
