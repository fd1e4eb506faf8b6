import Rebac.Client.Reference
import Rebac.CommandLine.Options
import Rebac.Config.VariableFile
import Rebac.Gateway.Answer

namespace Rebac.Client

open Rebac.CommandLine Rebac.Gateway Rebac.Message Rebac.Service

/-!
# The command line of the client

A client asks one question of a server and prints the answer.

* `Arguments.read` reads a command line.
* `Command.question` is what the server is asked, `callLines` and `healthLine` print the answer.
* `run` is what becomes of a client.
-/

/-- What a client is told to do. -/
inductive Command where
  | check (tenant entity permission subject : String)
  | lookupEntity (tenant entityType permission subject : String)
  | tenants
  | health (service : String)
  deriving DecidableEq

/-- What a command line says. -/
structure Arguments where
  /-- The address of the server. -/
  server : String
  /-- The credential. -/
  token : Option String
  command : Command
  deriving DecidableEq

/-! ### Reading a command line -/

namespace Arguments

/-- The option of the address of the server. -/
def serverParameter : Parameter := ⟨"server", some 's'⟩

/-- The option of the credential. -/
def tokenParameter : Parameter := ⟨"token", some 't'⟩

/-- The option of the tenant. -/
def tenantParameter : Parameter := ⟨"tenant", none⟩

/-- The option of an entity. -/
def entityParameter : Parameter := ⟨"entity", some 'e'⟩

/-- The option of the type of entities. -/
def entityTypeParameter : Parameter := ⟨"entity-type", some 'e'⟩

/-- The option of a permission. -/
def permissionParameter : Parameter := ⟨"permission", some 'p'⟩

/-- The option of a subject. -/
def subjectParameter : Parameter := ⟨"subject", some 's'⟩

/-- The option of a service. -/
def serviceParameter : Parameter := ⟨"service", none⟩

/-- The words that ask for help. -/
def informing : List String := ["--help", "-h"]

/-- The server that is asked if no other is named. -/
def defaultServer : String := "http://127.0.0.1:3478"

/-- The tenant that is asked about if no other is named. -/
def defaultTenant : String := "t1"

/-- The variable that gives the credential. -/
def tokenVariable : String := "PERMIFY_TOKEN"

/-- The options of a command, and nothing else. -/
def onlyOptions (parameters : List Parameter) (words : List String) : Except Refusal Given := do
  let (given, rest) ← Options.read parameters informing words
  if rest.isEmpty then .ok given else .error .usage

/-- The value of an option that must be given. -/
def required (given : Given) (p : Parameter) : Except Refusal String :=
  match Options.value? given p with
  | some s => .ok s
  | none => .error .usage

/-- Reads a command with its options. -/
def readCommand : List String → Except Refusal Command
  | "check" :: words => do
    let given ← onlyOptions
      [tenantParameter, entityParameter, permissionParameter, subjectParameter] words
    let entity ← required given entityParameter
    let permission ← required given permissionParameter
    let subject ← required given subjectParameter
    .ok (.check ((Options.value? given tenantParameter).getD defaultTenant) entity permission subject)
  | "lookup-entity" :: words => do
    let given ← onlyOptions
      [tenantParameter, entityTypeParameter, permissionParameter, subjectParameter] words
    let entityType ← required given entityTypeParameter
    let permission ← required given permissionParameter
    let subject ← required given subjectParameter
    .ok (.lookupEntity ((Options.value? given tenantParameter).getD defaultTenant) entityType
      permission subject)
  | "tenants" :: words => do
    let _ ← onlyOptions [] words
    .ok .tenants
  | "health" :: words => do
    let given ← onlyOptions [serviceParameter] words
    .ok (.health ((Options.value? given serviceParameter).getD Server.Health.wholeServer))
  | "help" :: _ => .error .information
  | _ => .error .usage

/-- Reads a command line. The credential may also be given by a variable. -/
def read (environment : List Config.Variable) (words : List String) : Except Refusal Arguments := do
  let (given, rest) ← Options.read [serverParameter, tokenParameter] informing words
  let command ← readCommand rest
  let token := match Options.value? given tokenParameter with
    | some token => some token
    | none => Config.valueOf? tokenVariable environment
  .ok ⟨(Options.value? given serverParameter).getD defaultServer, token, command⟩

end Arguments

/-! ### Asking -/

/-- What a server is asked. -/
inductive Question where
  | call (r : Rpc) (message : r.Request)
  | health (service : String)

/-- How deep an evaluation may go. -/
def depth : Int32 := 20

/-- The subject of a reference. -/
def Reference.subject (r : Reference) : Subject :=
  { type := r.type, id := r.id }

/-- What the server is asked, or what is wrong with the command. -/
def Command.question : Command → Except String Question
  | check tenant entity permission subject => do
    let entity ← Reference.ofText entity
    let subject ← Reference.ofText subject
    let message : CheckRequest := {
      tenantId := tenant
      metadata := some { depth := depth }
      entity := some { type := entity.type, id := entity.id }
      permission := permission
      subject := some subject.subject }
    .ok (.call .check message)
  | lookupEntity tenant entityType permission subject => do
    let subject ← Reference.ofText subject
    let message : LookupRequest := {
      tenantId := tenant
      metadata := some { depth := depth }
      entityType := entityType
      permission := permission
      subject := some subject.subject }
    .ok (.call .lookupEntity message)
  | tenants =>
    let message : TenantListRequest := {}
    .ok (.call .listTenants message)
  | health service => .ok (.health service)

/-- The metadata of a call, `none` if the credential cannot be sent. -/
def Arguments.metadata? (a : Arguments) : Option Metadata :=
  match a.token with
  | none => some []
  | some token => (authorization? token).map fun h => [h]

/-! ### Printing -/

/-- A text with blanks behind it up to a width. -/
def padded (width : Nat) (s : String) : String :=
  s ++ String.ofList (List.replicate (width - s.length) ' ')

/-- A line of the table of tenants. -/
def tenantLine (id name created : String) : String :=
  s!"{padded 32 id} {padded 32 name} {created}"

/-- The name of an answer to a check. -/
def resultName (c : CheckResult) : String :=
  (CheckResult.names.nameOf? c.code).getD "CHECK_RESULT_UNSPECIFIED"

/-- The lines that are printed for an answer. `elapsed` is how long it took. -/
def callLines (elapsed : String) : (r : Rpc) → r.Response → List String
  | .check, m => [s!"{resultName m.can} ({elapsed})"]
  | .lookupEntity, m =>
    (if m.entityIds.isEmpty then ["No entities found"] else []) ++ m.entityIds
  | .listTenants, m =>
    tenantLine "ID" "NAME" "CREATED" :: String.ofList (List.replicate 80 '=')
      :: m.tenants.map fun t => tenantLine t.id t.name (toString t.createdAt.toInt)
  | _, _ => []

/-- The line that is printed for the health of a service. -/
def healthLine (service : String) (s : Server.ServingStatus) : String :=
  (if service = Server.Health.wholeServer then "server" else service) ++ ": " ++ s.name

/-! ### Running -/

/-- How a client ends: its exit status, and the lines that it has printed of an answer. -/
structure Report where
  exit : Nat
  lines : List String := []
  deriving DecidableEq

section

variable {σ : Type}

/-- The answer of a server to the question of a client. -/
def Arguments.ask (a : Arguments) (elapsed : String) (u : Link σ) (s : σ) : Report × σ :=
  match a.command.question with
  | .error _ => (⟨1, []⟩, s)
  | .ok (.health service) =>
    match u.health s service with
    | .error _ => (⟨1, []⟩, s)
    | .ok status => (⟨0, [healthLine service status]⟩, s)
  | .ok (.call r message) =>
    match a.metadata? with
    | none => (⟨1, []⟩, s)
    | some metadata =>
      match u.call s metadata r message with
      | (.answer response, s) => (⟨0, callLines elapsed r response⟩, s)
      | (_, s) => (⟨1, []⟩, s)

/-- What becomes of a client. `connect` is the server under an address, if it can be reached, and a
    question takes the time `elapsed`. -/
def run (connect : (address : String) → Option (Link σ)) (environment : List Config.Variable)
    (words : List String) (elapsed : String) (s : σ) : Report × σ :=
  match Arguments.read environment words with
  | .error .usage => (⟨2, []⟩, s)
  | .error .information => (⟨0, []⟩, s)
  | .ok a =>
    match connect a.server with
    | none => (⟨1, []⟩, s)
    | some u => a.ask elapsed u s

end

end Rebac.Client
