import Rebac.Status
import Rebac.Text.Blank

namespace Rebac.Credential

/-!
# Preshared keys

A credential is accepted if it is one of the configured keys.
-/

/-- Why a list of keys cannot be used. -/
inductive KeyListError where
  | noKeys
  | blankKey
  deriving DecidableEq

/-- The wording of the error. -/
def KeyListError.message : KeyListError → String
  | noKeys => "preshared authentication requires at least one key"
  | blankKey => "preshared keys must not be blank"

/-- Keys that can be used: there is at least one, and none is blank. -/
structure KeyList where
  keys : List String
  nonempty : keys ≠ []
  notBlank : ∀ k ∈ keys, Text.isBlankText k = false

/-- The key list of the configured keys. -/
def KeyList.ofKeys (keys : List String) : Except KeyListError KeyList :=
  if h : keys = [] then .error .noKeys
  else if b : keys.any Text.isBlankText then .error .blankKey
  else .ok ⟨keys, h, by simpa using b⟩

/-- Accepts the keys of the list. -/
def KeyList.validate (l : KeyList) (credential : String) : Except Refusal Unit :=
  if credential ∈ l.keys then .ok () else .error .unknownSecret

end Rebac.Credential
