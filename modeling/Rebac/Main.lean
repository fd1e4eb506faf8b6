import Rebac.Gateway.Answer
import Rebac.Server.Command
import Rebac.Token.BuiltIn

open Rebac

/-!
# The program

Starts the servers as the command line, the variables and the files say, and answers requests that
come as lines of the standard input: a method, a path and, if there is one, a body, with a blank between
each two of them. The end of the input asks the servers to stop.
-/

namespace Rebac.Main

/-- What a file holds, or why it cannot be read. -/
def readFile (path : String) : IO (Except String ByteArray) := do
  try
    let bytes ← IO.FS.readBinFile path
    return .ok bytes
  catch e => return .error (toString e)

/-- The text of a file, if it is there. -/
def readText (path : String) : IO (Option String) := do
  match ← readFile path with
  | .ok bytes => return String.fromUTF8? bytes
  | .error _ => return none

/-- The variables of the process. -/
def readVariables : IO (List Config.Variable) := do
  let text := (← readText "/proc/self/environ").getD ""
  return (text.splitOn "\x00").filterMap fun entry =>
    match entry.splitOn "=" with
    | name :: value => if name.isEmpty then none else some (name, "=".intercalate value)
    | [] => none

/-- The text files that a start looks at. -/
def readSettingsFiles (environment : List Config.Variable) (words : List String) :
    IO (String → Option String) := do
  let variableFile ← readText Config.variableFileName
  let known : String → Option String := fun name =>
    if name = Config.variableFileName then variableFile else none
  match Server.Arguments.read environment words with
  | .error _ => return known
  | .ok a =>
    let path := a.settingsPath (Config.withFileVariables known environment)
    let text ← readText path
    return fun name => if name = Config.plainPath path then text else known name

/-- The files of certificates and keys that the settings name. -/
def readCredentialFiles (c : Config) : IO Tls.Credentials.Files := do
  let paths := [c.server.grpc.tls, c.server.http.tls].flatMap fun t => [t.certPath, t.keyPath]
  let found ← paths.mapM fun path => do
    let content ← readFile path
    return (path, content.map fun bytes => bytes.data.toList)
  return fun path => (found.lookup path).getD (.error "not found")

/-- A machine on which every listener can be opened and the primary server can be reached; no issuer
    is reached from it. -/
def machine (files : Tls.Credentials.Files) : Server.Machine where
  files := files
  document := .unreachable
  keySet _ := .unreachable
  tokens := .builtIn
  bind _ endpoint := .opened (.ok endpoint)
  dial _ _ := .ok ()

/-- The first number behind a name in a system file. -/
def systemNumber (path name : String) : IO Nat := do
  let words := ((← readText path).getD "").splitToList fun c => c.isWhitespace || c = '.'
  let behind := (words.dropWhile (· ≠ name)).drop 1
  return (behind.head?.bind (·.toNat?)).getD 0

/-- The time in seconds: that of the start of the machine and what has passed since. -/
def readClock : IO Nat := do
  let boot ← systemNumber "/proc/stat" "btime"
  let passed ← IO.monoMsNow
  return boot + passed / 1000

/-- A random version of a schema: 32 hexadecimal digits. -/
def newVersion : IO String := do
  let digits ← (List.range 32).mapM fun _ => IO.rand 0 15
  return String.ofList (digits.map fun n => Char.ofNat (Json.hexDigit n).toNat)

/-- Prints a line of the log. -/
def printLine (l : Log.Line) : IO Unit := do
  let server := (l.server.map fun k => " server=" ++ k.name).getD ""
  let error := (l.error.map fun e => " error=" ++ e).getD ""
  IO.eprintln (l.message ++ server ++ error)

/-- Prints what became of the process and gives its exit status. -/
def finish (r : Server.Report) : IO UInt32 := do
  r.complaints.forM IO.eprintln
  r.log.forM printLine
  return UInt32.ofNat r.exit

/-- The request of a line. -/
def requestOf? (line : String) : Option Http.Request :=
  match line.trimAscii.toString.splitOn " " with
  | method :: target :: body =>
    Http.Request.ofTarget? method target [] (Json.bytesOfText (" ".intercalate body))
  | _ => none

/-- Answers the lines of the input. -/
partial def answerLines (policy : Gateway.Cors) (p : Gateway.Primary) : IO Unit := do
  let line ← (← IO.getStdin).getLine
  if line.isEmpty then return
  match requestOf? line with
  | none =>
    IO.println "400"
    answerLines policy p
  | some q =>
    let now ← readClock
    let around : Service.Surroundings :=
      ⟨⟨now, .unreachable⟩, ⟨Int64.ofNat now, ← newVersion⟩⟩
    let (response, p) := Gateway.answer policy (.ofServices .direct around) q p
    let body := (Json.textOfBytes response.body).toOption.getD ""
    IO.println s!"{response.status} {body}"
    answerLines policy p

/-- Answers requests if the gateway runs, until the input ends. -/
def serveLines (r : Server.Running) : IO Unit := do
  match Gateway.Cors.ofSettings r.config.server.http with
  | .ok policy =>
    if .gateway ∈ r.set.running then
      let backend := Service.Backend.start (Int64.ofNat (← readClock)) r.set.gate
      answerLines policy ⟨backend, .ofServices (Server.servicesOf .primary)⟩
  | .error _ => return

end Rebac.Main

/-- The program. -/
def main (words : List String) : IO UInt32 := do
  let environment ← Main.readVariables
  let files ← Main.readSettingsFiles environment words
  let credentialFiles ← match Server.Arguments.read environment words with
    | .ok a =>
      match a.settings files environment with
      | .ok c => Main.readCredentialFiles c
      | .error _ => pure fun _ => .error "not found"
    | .error _ => pure fun _ => .error "not found"
  match Server.boot (Main.machine credentialFiles) files environment words with
  | .error report => Main.finish report
  | .ok r =>
    Main.serveLines r
    Main.finish (r.stop (Server.cleanStops r.set) [])
