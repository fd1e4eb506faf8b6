import Rebac.CommandLine.Options
import Rebac.Config.Load
import Rebac.Log.Filter
import Rebac.Server.Shutdown

namespace Rebac.Server

open Rebac.CommandLine Rebac.Log

/-!
# The command line of the server

* `Arguments` is what a command line says, `Arguments.apply` puts it in place of settings.
* `boot` starts a process, `Running.stop` stops it when it is asked to; `run` is both.
-/

/-! ### Arguments -/

/-- What a command line says. -/
structure Arguments where
  /-- The file of the settings. -/
  config : Option String
  grpcPort : Option UInt16
  httpPort : Option UInt16
  invokerPort : Option UInt16
  /-- Which lines of the log are written. -/
  logLevel : Option String

namespace Arguments

/-- The option of the file of the settings. -/
def configParameter : Parameter := ⟨"config", some 'c'⟩

/-- The option of the port of the primary server. -/
def grpcPortParameter : Parameter := ⟨"grpc-port", none⟩

/-- The option of the port of the gateway. -/
def httpPortParameter : Parameter := ⟨"http-port", none⟩

/-- The option of the port of the invoker. -/
def invokerPortParameter : Parameter := ⟨"invoker-port", none⟩

/-- The option of the log. -/
def logLevelParameter : Parameter := ⟨"log-level", none⟩

/-- All options. -/
def parameters : List Parameter :=
  [configParameter, grpcPortParameter, httpPortParameter, invokerPortParameter, logLevelParameter]

/-- The words that ask for help or for the version. -/
def informing : List String := ["--help", "-h", "--version", "-V"]

/-- Reads a command line. The file of the settings may also be given by a variable. -/
def read (environment : List Config.Variable) (words : List String) : Except Refusal Arguments := do
  let (given, rest) ← Options.read parameters informing words
  let grpcPort ← Options.portOf given grpcPortParameter
  let httpPort ← Options.portOf given httpPortParameter
  let invokerPort ← Options.portOf given invokerPortParameter
  let config := match Options.value? given configParameter with
    | some path => some path
    | none => Config.valueOf? Config.pathVariable environment
  if rest.isEmpty then
    .ok ⟨config, grpcPort, httpPort, invokerPort, Options.value? given logLevelParameter⟩
  else .error .usage

/-- The settings with the arguments in their place. -/
def apply (a : Arguments) (c : Config) : Config :=
  { c with
    server := { c.server with
      grpc := { c.server.grpc with port := a.grpcPort.getD c.server.grpc.port }
      http := { c.server.http with port := a.httpPort.getD c.server.http.port } }
    distributed := { c.distributed with port := a.invokerPort.getD c.distributed.port }
    log := { c.log with level := a.logLevel.getD c.log.level } }

/-- The path of the file of the settings. -/
def settingsPath (a : Arguments) (vs : List Config.Variable) : String :=
  a.config.getD (Config.pathOf vs)

/-- The settings that the arguments, the files and the variables give. -/
def settings (a : Arguments) (files : String → Option String)
    (environment : List Config.Variable) : Except Config.LoadError Config := do
  let vs := Config.withFileVariables files environment
  let path := a.settingsPath vs
  let c ← Config.load path (files (Config.plainPath path)) vs
  .ok (a.apply c)

end Arguments

/-! ### The log -/

/-- The source of the lines of the command line. -/
def commandSource : String := "server"

/-- The source of the lines of the servers. -/
def serversSource : String := "permify_server"

/-- The lines that tell of started servers. -/
def startedLines (actions : List Action) : List Line :=
  actions.filterMap fun
    | .spawn k => some { level := .info, source := serversSource, message := "server started",
                         server := some k }
    | _ => none

/-- The lines that tell of a failure. -/
def failureLines (s : Start) (f : Failure) : List Line :=
  let message :=
    if s.phases.contains .binding then "startup failed" else "startup failed before binding"
  [{ level := .error, source := serversSource, message := message, error := some f.message }]

/-! ### Running -/

/-- What became of the process. -/
structure Report where
  exit : Nat
  /-- What is written besides the log. -/
  complaints : List String := []
  log : List Line := []
  /-- How the lines of the log are written. -/
  format : Config.LogFormat := .text

/-- The lines of a process whose servers end as they should once it is asked to stop. -/
def servedLines : List Line := [
  { level := .info, source := commandSource, message := "received SIGTERM" },
  { level := .info, source := serversSource, message := "shutdown requested" },
  { level := .info, source := serversSource, message := "shutting down servers" }]

/-- The exit status and the last lines of a process. -/
def ended : Except Failure Unit → Nat × List Line
  | .ok () => (0, [
      { level := .info, source := serversSource, message := "all servers stopped" },
      { level := .info, source := commandSource, message := "permission service stopped" }])
  | .error f => (1, [
      { level := .error, source := commandSource, message := "permission service exited with error",
        error := some f.message }])

/-- Every server ends as it should. -/
def cleanStops (set : ServerSet) : set.Stops := fun _ => ⟨.clean, false, by simp⟩

/-- A process whose servers run. -/
structure Running where
  config : Config
  set : ServerSet
  filter : Filter
  /-- What has been written besides the log. -/
  complaints : List String
  /-- The lines of the log so far. -/
  log : List Line

/-- What became of a process once its lines are known. -/
def reportOf (c : Config) (filter : Filter) (complaints : List String) (exit : Nat)
    (lines : List Line) : Report :=
  ⟨exit, complaints, lines.filter filter.admits, c.log.format⟩

/-- Starts the servers of a process with these settings. -/
def serve (m : Machine) (c : Config) (filter : Filter) (complaints : List String) :
    Except Report Running :=
  let starting : Line :=
    { level := .info, source := commandSource, message := "starting permission service" }
  let s := start m c
  let front := starting :: startedLines s.actions
  match s.result with
  | .error f =>
    let (exit, last) := ended (.error f)
    .error (reportOf c filter complaints exit (front ++ failureLines s f ++ last))
  | .ok set => .ok ⟨c, set, filter, complaints, front⟩

/-- Starts a process. `files` tells what a file holds, if it is there. -/
def boot (m : Machine) (files : String → Option String) (environment : List Config.Variable)
    (words : List String) : Except Report Running :=
  match Arguments.read environment words with
  | .error .usage => .error { exit := 2 }
  | .error .information => .error { exit := 0 }
  | .ok a =>
    match a.settings files environment with
    | .error e =>
      let reason := (Failure.settings (e.reason?.getD "")).message
      .error { exit := 1, complaints := ["failed to load configuration: " ++ reason] }
    | .ok c =>
      let (filter, complaints) := Filter.ofText c.log.level
      serve m c filter complaints

/-- Stops a process that is asked to, when its servers end in these ways. -/
def Running.stop (r : Running) (stops : r.set.Stops) (choices : List Bool) : Report :=
  let (exit, last) := ended (r.set.stopAll stops choices).1
  reportOf r.config r.filter r.complaints exit (r.log ++ servedLines ++ last)

/-- What becomes of a process that is asked to stop and whose servers end as they should. -/
def run (m : Machine) (files : String → Option String) (environment : List Config.Variable)
    (words : List String) : Report :=
  match boot m files environment words with
  | .error report => report
  | .ok r => r.stop (cleanStops r.set) []

end Rebac.Server
