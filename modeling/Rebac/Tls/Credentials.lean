import Rebac.Config.Settings
import Rebac.Tls.Certificate
import Rebac.Tls.Pem
import Rebac.Tls.PrivateKey

namespace Rebac.Tls

/-!
# Certificates and keys of servers

* `Credentials.ofPem` accepts a chain of certificates with the private key of its first one.
* `Credentials.load` takes them from the files that the settings name.
* `Credentials.check` checks them again when a server takes them into use.
-/

/-- A chain of certificates with the private key of the first one, and the name that a client expects
    the certificate to have. -/
structure Credentials where
  chain : List (List UInt8)
  form : KeyForm
  key : List UInt8
  serverName : String

/-- Why a server cannot use its files. -/
inductive Problem where
  | unreadable (path reason : String)
  | badCertificates (e : PemError)
  | noCertificate
  | badKey (e : PemError)
  | unknownKey
  | unusableCertificate (e : CertificateError)
  | otherKey

/-- The wording of the problem. -/
def Problem.message : Problem → String
  | unreadable path reason => s!"cannot read {path}: {reason}"
  | badCertificates e => "invalid certificate: " ++ e.message
  | noCertificate => "no certificate found"
  | badKey e => "invalid private key: " ++ e.message
  | unknownKey => "unexpected error: failed to parse private key as RSA, ECDSA, or EdDSA"
  | unusableCertificate e => "invalid peer certificate: " ++ e.message
  | otherKey => "keys may not be consistent: KeyMismatch"

namespace Credentials

/-- The form of the private key that a section holds. -/
def keyForm? : SectionKind → Option KeyForm
  | .privateKey => some .general
  | .rsaPrivateKey => some .rsa
  | .ecPrivateKey => some .ec
  | _ => none

/-- The certificates of a file. -/
def certificates (file : List UInt8) : Except PemError (List (List UInt8)) :=
  match sections file with
  | (_, some mistake) => .error mistake
  | (found, none) => .ok ((found.filter fun s => s.kind = .certificate).map Section.content)

/-- The first private key of a file. -/
def privateKey (file : List UInt8) : Except PemError (KeyForm × List UInt8) :=
  let (found, mistake) := sections file
  match found.findSome? fun s => (keyForm? s.kind).map fun form => (form, s.content) with
  | some key => .ok key
  | none => .error (mistake.getD .nothing)

/-- Checks that a certificate is about a private key. -/
def checkKey (certificate : List UInt8) (form : KeyForm) (key : List UInt8) :
    Except Problem Unit := do
  match PrivateKey.publicKey? form key with
  | none => .error .unknownKey
  | some own =>
    let stated ← (Certificate.publicKey certificate).mapError .unusableCertificate
    if stated = own then .ok () else .error .otherKey

/-- The certificates and the key of two files, if the first certificate is about the key. -/
def ofPem (certificateFile keyFile : List UInt8) (serverName : String) :
    Except Problem Credentials := do
  let chain ← (certificates certificateFile).mapError .badCertificates
  match chain with
  | [] => .error .noCertificate
  | leaf :: _ =>
    let (form, key) ← (privateKey keyFile).mapError .badKey
    checkKey leaf form key
    .ok ⟨chain, form, key, serverName⟩

/-- Checks credentials that a server takes into use. -/
def check (c : Credentials) : Except Problem Unit :=
  match c.chain with
  | [] => .error .noCertificate
  | leaf :: _ => checkKey leaf c.form c.key

/-- What a file holds, or why it cannot be read. -/
abbrev Files := String → Except String (List UInt8)

/-- The certificates and the key that the settings name, `none` if they are switched off. -/
def load (files : Files) (settings : Config.Tls) : Except Problem (Option Credentials) :=
  if settings.enabled then do
    let certificateFile ←
      (files settings.certPath).mapError (.unreadable settings.certPath)
    let keyFile ← (files settings.keyPath).mapError (.unreadable settings.keyPath)
    let found ← ofPem certificateFile keyFile settings.serverName
    .ok (some found)
  else .ok none

end Credentials

end Rebac.Tls
