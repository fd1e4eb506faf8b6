import Rebac.Config.Check
import Rebac.Gateway.Cors
import Rebac.Server.Event
import Rebac.Server.Lifecycle
import Rebac.Service.Pipeline
import Rebac.Tls.Credentials

namespace Rebac.Server

open Rebac.Config

/-!
# Starting the servers

Everything that can be checked is checked before a listener is opened. Then the listeners are opened
one after the other, and when one of them fails, what has been opened before is given back. Only the
profiler may be missing from a successful start.

* `Machine` is what a start asks of the machine it runs on.
* `prepare` checks, `launch` opens; `start` is both.
* `Action` is what a start does with listeners and servers, in order.
-/

/-! ### The machine -/

/-- What came of opening a listener: no listener, or one with its address, unless that cannot be
    read. -/
inductive Binding where
  | refused (reason : String)
  | opened (address : Except String Endpoint)

/-- What a start asks of the machine. -/
structure Machine where
  /-- What a file holds. -/
  files : Tls.Credentials.Files
  /-- The description of the issuer. -/
  document : Http.Exchange
  /-- The key set under an address. -/
  keySet : String → Http.Exchange
  /-- What reads and checks the tokens of the issuer. -/
  tokens : Token.Library
  /-- Opens a listener. -/
  bind : Kind → Endpoint → Binding
  /-- Connects to the primary server, with these credentials if it speaks TLS. -/
  dial : Endpoint → Option Tls.Credentials → Except String Unit

/-! ### Actions -/

/-- What a start does with the listener or the server of a kind. -/
inductive Action where
  /-- Tries to open the listener. -/
  | bind (server : Kind)
  /-- The listener is open. -/
  | hold (server : Kind)
  /-- Closes a listener that no server has taken over. -/
  | release (server : Kind)
  /-- Starts the server, which takes over the listener. -/
  | spawn (server : Kind)
  /-- Asks the server to stop without waiting for it. -/
  | cancel (server : Kind)
  /-- Ends the server at once. -/
  | abort (server : Kind)
  deriving DecidableEq

/-- A part of a start: what it does, and its result. -/
abbrev Launching (α : Type) := ExceptT Failure (StateM (List Action)) α

namespace Launching

/-- Does something. -/
def act (a : Action) : Launching Unit :=
  modifyGet fun done => ((), done ++ [a])

/-- Fails after doing something. -/
def failWith {α : Type} (actions : List Action) (f : Failure) : Launching α := do
  actions.forM act
  throw f

/-- Does a part; if it fails, does something before failing likewise. -/
def orElseDo {α : Type} (part : Launching α) (actions : List Action) : Launching α :=
  tryCatch part (failWith actions)

end Launching

open Launching

/-! ### Preparing -/

/-- Everything that is built before a listener is opened. -/
structure Prepared where
  gate : Service.Gate
  /-- The credentials of both RPC servers. -/
  rpcTls : Option Tls.Credentials
  /-- The credentials of the gateway. -/
  httpTls : Option Tls.Credentials
  /-- The policy of the gateway, if there is one. -/
  cors : Option Gateway.Cors

/-- Takes credentials from the files that settings name. -/
def loadTls (m : Machine) (s : Config.Tls) : Except Failure (Option Tls.Credentials) :=
  (Tls.Credentials.load m.files s).mapError fun p => .tls p.message

/-- The policy of the gateway. -/
def loadCors (s : Config.Http) : Except Failure Gateway.Cors :=
  (Gateway.Cors.ofSettings s).mapError fun e => .settings e.message

/-- Checks settings and builds what the servers share. -/
def prepare (m : Machine) (c : Config) : Except Failure Prepared := do
  match problem? c with
  | some p => .error (.settings p.message)
  | none =>
    let authenticator ← Credential.Authenticator.select m.tokens c.authn m.document m.keySet
    let rpcTls ← loadTls m c.server.grpc.tls
    let gate : Service.Gate := ⟨.ofRate c.server.rateLimit.toNat, authenticator⟩
    if c.server.http.enabled then
      let httpTls ← loadTls m c.server.http.tls
      let cors ← loadCors c.server.http
      .ok ⟨gate, rpcTls, httpTls, some cors⟩
    else .ok ⟨gate, rpcTls, none, none⟩

/-! ### Opening listeners -/

/-- The servers of a process. -/
structure ServerSet where
  phase : Phase
  gate : Service.Gate
  /-- The address of each server that was started. -/
  addresses : Kind → Option Endpoint
  /-- The servers that have been started and not stopped yet. -/
  running : List Kind
  shutdown : Config.Shutdown

/-- The port of a server in the settings. -/
def portOf (c : Config) : Kind → UInt16
  | .primary => c.server.grpc.port
  | .invoker => c.distributed.port
  | .gateway => c.server.http.port
  | .profiler => c.profiler.port

/-- What the listener of a server is bound to. -/
def endpointOf (c : Config) (k : Kind) : Except Failure Endpoint :=
  (bindAddress c (portOf c k).toNat).mapError .settings

/-- Opens a listener. -/
def openListener (m : Machine) (c : Config) (k : Kind) : Launching (Except String Endpoint) := do
  let endpoint ← (endpointOf c k : Except Failure Endpoint)
  act (.bind k)
  match m.bind k endpoint with
  | .refused reason => throw (.bind k endpoint reason)
  | .opened address =>
    act (.hold k)
    pure address

/-- The address of an open listener. -/
def addressOf (address : Except String Endpoint) : Except Failure Endpoint :=
  address.mapError .io

/-- The address under which the gateway reaches the primary server: it runs on the same machine. -/
def loopback (primary : Endpoint) : Endpoint :=
  ⟨.v4 [127, 0, 0, 1], primary.port⟩

/-- Takes the credentials of the gateway into use, if it speaks TLS. -/
def takeUp (tls : Option Tls.Credentials) : Except Failure Unit :=
  match tls with
  | none => .ok ()
  | some credentials => credentials.check.mapError fun p => .tls p.message

/-- Starts the gateway: connects it to the primary server, takes its credentials into use, and only
    then opens its listener. -/
def startGateway (m : Machine) (c : Config) (p : Prepared) (primary : Endpoint) :
    Launching Endpoint := do
  match m.dial (loopback primary) p.rpcTls with
  | .error reason => throw (.dial (loopback primary) reason)
  | .ok () =>
    (takeUp p.httpTls : Except Failure Unit)
    let address ← openListener m c .gateway
    let endpoint ← orElseDo (addressOf address : Except Failure Endpoint) [.release .gateway]
    act (.spawn .gateway)
    pure endpoint

/-- Starts the profiler. Without a listener it is left out. -/
def startProfiler (m : Machine) (c : Config) : Launching (Option Endpoint) := do
  match endpointOf c .profiler with
  | .error _ => pure none
  | .ok endpoint =>
    act (.bind .profiler)
    match m.bind .profiler endpoint with
    | .refused _ => pure none
    | .opened address =>
      act (.hold .profiler)
      let endpoint ← orElseDo (addressOf address : Except Failure Endpoint) [.release .profiler]
      act (.spawn .profiler)
      pure (some endpoint)

/-- Opens the listeners of both RPC servers and starts them. -/
def startRpc (m : Machine) (c : Config) : Launching (Endpoint × Endpoint) := do
  let primary ← openListener m c .primary
  let invoker ← orElseDo (openListener m c .invoker) [.release .primary]
  let addresses : Except Failure (Endpoint × Endpoint) := do
    let p ← addressOf primary
    let i ← addressOf invoker
    pure (p, i)
  let addresses ← orElseDo (addresses : Except Failure (Endpoint × Endpoint))
    [.release .invoker, .release .primary]
  act (.spawn .primary)
  act (.spawn .invoker)
  pure addresses

/-- The servers of a process by their addresses. -/
def ServerSet.ofAddresses (p : Prepared) (c : Config) (primary invoker : Endpoint)
    (gateway profiler : Option Endpoint) : ServerSet where
  phase := .binding
  gate := p.gate
  addresses
    | .primary => some primary
    | .invoker => some invoker
    | .gateway => gateway
    | .profiler => profiler
  running := [.primary, .invoker] ++ (if gateway.isSome then [.gateway] else [])
    ++ (if profiler.isSome then [.profiler] else [])
  shutdown := c.server.shutdown

/-- Starts the gateway if it is enabled. If it cannot be started the RPC servers are ended at once. -/
def withGateway (m : Machine) (c : Config) (p : Prepared) (primary : Endpoint) :
    Launching (Option Endpoint) :=
  if c.server.http.enabled then do
    let endpoint ← orElseDo (startGateway m c p primary) [.abort .primary, .abort .invoker]
    pure (some endpoint)
  else pure none

/-- Starts the profiler if it is enabled. If its address cannot be read all servers are asked to
    stop. -/
def withProfiler (m : Machine) (c : Config) (gateway : Option Endpoint) :
    Launching (Option Endpoint) :=
  if c.profiler.enabled then
    orElseDo (startProfiler m c)
      ((if gateway.isSome then [.cancel .gateway] else []) ++ [.cancel .primary, .cancel .invoker])
  else pure none

/-- Starts all servers. -/
def launch (m : Machine) (c : Config) (p : Prepared) : Launching ServerSet := do
  let (primary, invoker) ← startRpc m c
  let gateway ← withGateway m c p primary
  let profiler ← withProfiler m c gateway
  pure (.ofAddresses p c primary invoker gateway profiler)

/-! ### Starting -/

/-- What came of a start: its result, the phases it went through, and what it did. -/
structure Start where
  result : Except Failure ServerSet
  phases : List Phase
  actions : List Action

/-- Starts the servers of a process. -/
def start (m : Machine) (c : Config) : Start :=
  match prepare m c with
  | .error f => ⟨.error f, [.initializing, Phase.initializing.become .failed], []⟩
  | .ok p =>
    let phase := Phase.initializing.become .binding
    match (launch m c p).run [] with
    | (.error f, actions) => ⟨.error f, [.initializing, phase, phase.become .failed], actions⟩
    | (.ok set, actions) =>
      let set := { set with phase := set.phase.become .serving }
      ⟨.ok set, [.initializing, phase, set.phase], actions⟩

/-- The services of the two RPC servers. -/
def servicesOf : Kind → List String
  | .primary =>
    ["base.v1.Permission", "base.v1.Schema", "base.v1.Data", "base.v1.Tenancy", "base.v1.Watch"]
  | .invoker => ["base.v1.Permission"]
  | .gateway | .profiler => []

end Rebac.Server
