import Rebac.Metadata
import Rebac.Status

namespace Rebac.Credential

/-!
# Bearer credentials

A call authenticates with the value `Bearer CREDENTIAL` under the name `authorization`. Only the
first value of that name counts.
-/

/-- What follows the scheme, which is written `Bearer` or `bearer`. -/
def afterScheme? (cs : List Char) : Option (List Char) :=
  match cs with
  | 'B' :: 'e' :: 'a' :: 'r' :: 'e' :: 'r' :: ' ' :: rest => some rest
  | 'b' :: 'e' :: 'a' :: 'r' :: 'e' :: 'r' :: ' ' :: rest => some rest
  | _ => none

/-- The credential in a text: what follows the scheme without the blanks around it. -/
def ofText? (value : String) : Option String := do
  let rest ← afterScheme? value.toList
  let credential := Text.trimChars rest
  if credential.isEmpty then none else some (String.ofList credential)

/-- The credential of a call. -/
def ofMetadata (m : Metadata) : Except Refusal String :=
  match (m.first? "authorization").bind fun h => h.text?.bind ofText? with
  | some credential => .ok credential
  | none => .error .missing

/-- The text with which a client sends a credential. -/
def headerText (credential : String) : String :=
  "Bearer " ++ credential

end Rebac.Credential
