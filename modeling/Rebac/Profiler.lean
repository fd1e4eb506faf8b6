import Rebac.Http.Message
import Rebac.Json.Writer

namespace Rebac.Profiler

open Rebac.Http Rebac.Json

/-!
# The profiler

A server for operators that tells how the process is doing. It asks for no credential.

* `Report` is what the process tells of itself.
* `answer` is the answer to a request.
-/

/-- What the process tells of itself. -/
structure Report where
  workers : Nat
  aliveTasks : Nat
  queueDepth : Nat
  /-- The words of the command line. -/
  commandLine : List String
  /-- The text of all metrics. -/
  metrics : String

/-- The pages of the profiler. -/
inductive Page where
  | index
  | commandLine
  | runtime
  | metrics
  deriving DecidableEq

namespace Page

/-- All pages. -/
def all : List Page := [index, commandLine, runtime, metrics]

/-- The path of a page. -/
def path : Page → String
  | index => "/debug/pprof/"
  | commandLine => "/debug/pprof/cmdline"
  | runtime => "/debug/runtime"
  | metrics => "/metrics"

/-- The page of a path. -/
def ofPath? (s : String) : Option Page :=
  all.find? fun p => p.path = s

/-- The media type of a page. -/
def contentType : Page → String
  | index | runtime => "application/json"
  | commandLine => "text/plain; charset=utf-8"
  | metrics => "text/plain; version=0.0.4"

/-- What a page says. -/
def body (r : Report) : Page → List UInt8
  | index => (Value.object [("endpoints", .array (all.map fun p => .text p.path))]).write
  | commandLine => bytesOfText ("\x00".intercalate r.commandLine)
  | runtime => (Value.object [
      ("alive_tasks", .number (.int r.aliveTasks)),
      ("global_queue_depth", .number (.int r.queueDepth)),
      ("workers", .number (.int r.workers))]).write
  | metrics => bytesOfText r.metrics

end Page

/-- The methods under which pages are requested. -/
def methods : List String := ["GET", "HEAD"]

/-- The answer to a request. -/
def answer (r : Report) (q : Request) : Response :=
  match Page.ofPath? q.path with
  | none => ⟨404, [], []⟩
  | some p =>
    if methods.contains q.method then
      ⟨200, [textHeader "content-type" p.contentType], if q.method = "HEAD" then [] else p.body r⟩
    else ⟨405, [textHeader "allow" (",".intercalate methods)], []⟩

end Rebac.Profiler
