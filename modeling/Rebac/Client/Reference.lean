import Rebac.Text.Quoted
import Rebac.Credential.Bearer

namespace Rebac.Client

/-!
# What a client is given on its command line

* `Reference.ofText` reads an entity or a subject, written `type:id`.
* `authorization` is the header with which a credential is sent.
-/

/-- An entity or a subject: its type and its id, neither empty. -/
structure Reference where
  type : String
  id : String
  deriving DecidableEq

/-- The wording of a text that is no reference. -/
def badReference (s : String) : String :=
  "expected type:id, got " ++ Text.quoted s

/-- The reference that a text stands for: the type ends at the first colon. -/
def Reference.ofText (s : String) : Except String Reference :=
  match s.toList.takeWhile (· ≠ ':'), s.toList.dropWhile (· ≠ ':') with
  | t :: type, ':' :: i :: id => .ok ⟨String.ofList (t :: type), String.ofList (i :: id)⟩
  | _, _ => .error (badReference s)

/-- The header that carries a credential; a credential with a control character cannot be sent. -/
def authorization? (credential : String) : Option Header :=
  Header.ofText? "authorization" (Credential.headerText credential)

end Rebac.Client
