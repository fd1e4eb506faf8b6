import Rebac.Server.Start

namespace Rebac.Server

/-!
# Stopping the servers

The gateway is stopped first, since it depends on the primary server; then both RPC servers at the
same time; then the profiler. Each of them is stopped whatever came of the others.

* `Stop` is how a server ends after it has been asked to.
* `Moment` is what happens meanwhile, `ServerSet.moments` all of it in order.
* `ServerSet.stopAll` stops all servers, with the failures of those that did not end as they should.
-/

/-- How a server ends. -/
inductive Ending where
  /-- It ends as it should. -/
  | clean
  /-- It ends with an error. -/
  | failed (error : String)
  /-- It breaks down. -/
  | panicked (reason : String)
  /-- It does not end in time and is given up. -/
  | late
  deriving DecidableEq

/-- The seconds that a server may take to stop, `none` if it is waited for without a bound. -/
def boundOf (s : Config.Shutdown) : Kind → Option UInt64
  | .gateway | .profiler => some s.httpTimeoutSecs
  | .primary | .invoker => s.grace

/-- How a server ends after it has been asked to. A server without a bound is not given up. -/
structure Stop (bound : Option UInt64) where
  ending : Ending
  /-- Whether it had ended before it was asked. -/
  early : Bool
  bounded : ending = .late → bound.isSome := by decide

/-- The wording of a number of seconds. -/
def secondsText (n : UInt64) : String :=
  if n = 0 then "0ns" else s!"{n.toNat}s"

/-- The failure of a step, if it failed. -/
def Ending.failure? (k : Kind) (bound : Option UInt64) : Ending → Option String
  | clean => none
  | failed error => some s!"{k.name} server: {error}"
  | panicked reason => some s!"{k.name} server task: {reason}"
  | late => bound.map fun n => s!"{k.name} server did not stop within {secondsText n}"

/-- What a server tells of its end. -/
def Ending.events (k : Kind) : Ending → List Event
  | clean => [.stopped k]
  | failed error => [.failed k error]
  | panicked _ | late => []

/-- What happens while servers are stopped: something is told, or a server is waited for no longer,
    since it has ended or is given up. -/
inductive Moment where
  | told (event : Event)
  | settled (server : Kind)
  deriving DecidableEq

/-- What is told at a moment. -/
def Moment.event? : Moment → Option Event
  | told event => some event
  | settled _ => none

/-- What happens while a server is stopped. One that had ended before it was asked has told of its end
    already. -/
def Stop.moments {bound : Option UInt64} (k : Kind) (s : Stop bound) : List Moment :=
  .told (.stopping k) :: ((if s.early then [] else s.ending.events k).map .told ++ [.settled k])

/-- Two sequences at the same time. Each choice tells whether the next one is of the first sequence;
    when the choices or one of the sequences run out the rest follows. -/
def weave {α : Type} : (choices : List Bool) → List α → List α → List α
  | true :: choices, a :: as, bs => a :: weave choices as bs
  | false :: choices, as, b :: bs => b :: weave choices as bs
  | _, as, bs => as ++ bs

namespace ServerSet

/-- How each server ends after it has been asked to. -/
abbrev Stops (s : ServerSet) := (k : Kind) → Stop (boundOf s.shutdown k)

/-- What happens while a server is stopped, if it runs. -/
def momentsOf (s : ServerSet) (stops : s.Stops) (k : Kind) : List Moment :=
  if k ∈ s.running then (stops k).moments k else []

/-- What happens while all servers are stopped. `choices` tells how the two RPC servers alternate. What
    a server tells when it ends before it is asked to is not among it, be it before the first server is
    asked or while another one is being stopped. -/
def moments (s : ServerSet) (stops : s.Stops) (choices : List Bool) : List Moment :=
  s.momentsOf stops .gateway
    ++ weave choices (s.momentsOf stops .primary) (s.momentsOf stops .invoker)
    ++ s.momentsOf stops .profiler

/-- The order in which the failures of steps are told. -/
def stopOrder : List Kind := [.gateway, .primary, .invoker, .profiler]

/-- The failure of the step in which a server is stopped, if it failed. -/
def failureOf? (s : ServerSet) (stops : s.Stops) (k : Kind) : Option String :=
  (stops k).ending.failure? k (boundOf s.shutdown k)

/-- The failures of all steps. -/
def failures (s : ServerSet) (stops : s.Stops) : List String :=
  (stopOrder.filter (· ∈ s.running)).filterMap (s.failureOf? stops)

/-- The servers after they have been stopped. -/
def afterStop (s : ServerSet) : ServerSet :=
  { s with phase := (s.phase.become .shuttingDown).become .stopped, running := [] }

/-- Stops all servers: the result, what is told meanwhile, and the servers afterwards. Servers that
    are stopped stay so. -/
def stopAll (s : ServerSet) (stops : s.Stops) (choices : List Bool) :
    Except Failure Unit × List Event × ServerSet :=
  if s.phase = .stopped then (.ok (), [], s)
  else
    let events := (s.moments stops choices).filterMap Moment.event?
    let result := match s.failures stops with
      | [] => .ok ()
      | steps => .error (.shutdown steps)
    (result, events, s.afterStop)

end ServerSet

end Rebac.Server
