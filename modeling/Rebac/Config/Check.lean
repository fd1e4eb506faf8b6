import Rebac.Config.Settings

namespace Rebac.Config

/-!
# Checking settings

Settings are checked as a whole before anything is started; the first problem is reported.

* `Problem` is what can be wrong, `problem?` the first problem of some settings.
* `listeners` are the listeners that will run, in the order in which their ports are compared.
-/

/-- Part of the TLS settings that must not be empty. -/
inductive TlsPart where
  | certPath
  | keyPath
  | serverName
  deriving DecidableEq

/-- The name of a part. -/
def TlsPart.name : TlsPart → String
  | certPath => "cert_path"
  | keyPath => "key_path"
  | serverName => "server_name"

/-- What can be wrong with settings. -/
inductive Problem where
  | emptyTlsPart (place : String) (part : TlsPart)
  | noRateLimit
  | noPresharedKeys
  | noHttpTimeout
  | portTaken (listener : String) (port : UInt16)
  deriving DecidableEq

/-- The wording of a problem. -/
def Problem.message : Problem → String
  | emptyTlsPart place part => s!"{place} is enabled but {part.name} is empty"
  | noRateLimit => "server.rate_limit cannot be zero"
  | noPresharedKeys => "authn.preshared.keys cannot be empty"
  | noHttpTimeout => "server.shutdown.http_timeout_secs cannot be zero"
  | portTaken listener port => s!"{listener} {port.toNat} is already used by another listener"

/-- The first empty part of TLS settings that are enabled. -/
def Tls.emptyPart? (t : Tls) : Option TlsPart :=
  if !t.enabled then none
  else if t.certPath.isEmpty then some .certPath
  else if t.keyPath.isEmpty then some .keyPath
  else if t.serverName.isEmpty then some .serverName
  else none

/-- A listener: the name of its port in the settings, and the port. -/
abbrev Listener := String × UInt16

/-- The listeners that will run. -/
def listeners (c : Config) : List Listener :=
  [("server.grpc.port", c.server.grpc.port), ("distributed.port", c.distributed.port)]
    ++ (if c.server.http.enabled then [("server.http.port", c.server.http.port)] else [])
    ++ (if c.profiler.enabled then [("profiler.port", c.profiler.port)] else [])

/-- The first listener whose port is taken by an earlier one. Port zero is never taken. -/
def clash? (taken : List UInt16) : List Listener → Option Listener
  | [] => none
  | l :: rest =>
    if l.2 = 0 then clash? taken rest
    else if l.2 ∈ taken then some l
    else clash? (l.2 :: taken) rest

/-- The first of several possible problems. -/
def firstProblem : List (Option Problem) → Option Problem
  | [] => none
  | some p :: _ => some p
  | none :: rest => firstProblem rest

/-- A problem that is there if a condition holds. -/
def problemIf (p : Problem) (condition : Bool) : Option Problem :=
  if condition then some p else none

/-- The first problem of settings. -/
def problem? (c : Config) : Option Problem :=
  firstProblem [
    c.server.grpc.tls.emptyPart?.map (.emptyTlsPart "server.grpc.tls"),
    if c.server.http.enabled then
      c.server.http.tls.emptyPart?.map (.emptyTlsPart "server.http.tls") else none,
    problemIf .noRateLimit (c.server.rateLimit = 0),
    problemIf .noPresharedKeys
      (c.authn.enabled && c.authn.method = "preshared" && c.authn.preshared.keys.isEmpty),
    problemIf .noHttpTimeout (c.server.http.enabled && c.server.shutdown.httpTimeoutSecs = 0),
    (clash? [] (listeners c)).map fun l => .portTaken l.1 l.2]

end Rebac.Config
