import Rebac.Server.Kind
import Rebac.Config.Address

namespace Rebac

/-!
# Failures of the process

Why the servers of a process cannot be started, run or stopped.
-/

/-- Why the servers cannot be started, run or stopped. -/
inductive Failure where
  | unknownMethod (method : String)
  | badCredentialSettings (reason : String)
  | discovery (issuer reason : String)
  | tls (reason : String)
  | settings (reason : String)
  | bind (server : Server.Kind) (endpoint : Config.Endpoint) (reason : String)
  | dial (endpoint : Config.Endpoint) (reason : String)
  | serve (server : Server.Kind) (reason : String)
  | shutdown (steps : List String)
  | io (reason : String)
  deriving DecidableEq

/-- The wording of a failure. -/
def Failure.message : Failure → String
  | unknownMethod method => "unknown authentication method: " ++ Text.quoted method
  | badCredentialSettings reason => "invalid authentication configuration: " ++ reason
  | discovery issuer reason => s!"oidc discovery failed for {issuer}: {reason}"
  | tls reason => "tls error: " ++ reason
  | settings reason => "invalid configuration: " ++ reason
  | bind server endpoint reason =>
    s!"failed to bind {server.name} listener on {endpoint.text}: {reason}"
  | dial endpoint reason => s!"gateway failed to dial primary server at {endpoint.text}: {reason}"
  | serve server reason => s!"{server.name} server failed: {reason}"
  | shutdown steps => "shutdown incomplete: " ++ "; ".intercalate steps
  | io reason => reason

end Rebac
