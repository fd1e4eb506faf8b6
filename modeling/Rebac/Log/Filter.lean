import Rebac.Server.Kind

namespace Rebac.Log

/-!
# Lines of the log

* `Line` is a line of the log.
* `Filter.ofText` reads which lines are written, `Filter.admits` tells of a line whether it is one of
  them.
-/

/-- How important a line is. -/
inductive Level where
  | error
  | warn
  | info
  | debug
  | trace
  deriving DecidableEq

/-- The rank of a level; the most important one comes first. -/
def Level.rank : Level → Nat
  | error => 1
  | warn => 2
  | info => 3
  | debug => 4
  | trace => 5

/-- A line of the log. -/
structure Line where
  level : Level
  /-- The part of the program that writes it. -/
  source : String
  message : String
  /-- The error that it is about. -/
  error : Option String := none
  /-- The server that it is about. -/
  server : Option Server.Kind := none

/-- A rule of a filter: lines of sources that start with the target are written up to a rank. A rule
    without a target is about all sources. -/
structure Directive where
  target : Option String
  rank : Nat
  deriving DecidableEq

/-- The ranks by their words; zero stands for no line. -/
def rankWords : List (String × Nat) :=
  [("off", 0), ("error", 1), ("warn", 2), ("info", 3), ("debug", 4), ("trace", 5)]

/-- The rank of a word or a number. -/
def rank? (s : String) : Option Nat :=
  match rankWords.lookup s.toLower with
  | some n => some n
  | none =>
    match s.toList with
    | [c] => if '0' ≤ c && c ≤ '5' then some (c.toNat - 48) else none
    | _ => none

/-- Why a rule cannot be read. -/
inductive DirectiveError where
  | form
  | rank
  deriving DecidableEq

/-- The wording of the error. -/
def DirectiveError.message : DirectiveError → String
  | form => "invalid filter directive"
  | rank => "error parsing level filter: expected one of \"off\", \"error\", \"warn\", \"info\", \"debug\", \"trace\", or a number 0-5"

/-- A character that a rule may start with. -/
def isDirectiveStart (c : Char) : Bool :=
  c.isAlphanum || 0x80 ≤ c.toNat || c = '-' || c = ':' || c = '_'

/-- Reads a rule: a rank, a target, or a target and a rank. -/
def Directive.ofText (s : String) : Except DirectiveError Directive :=
  let cs := s.toList
  let name := String.ofList (cs.takeWhile (· ≠ '='))
  if !(cs.head?.all isDirectiveStart) then .error .form
  else
    match cs.dropWhile (· ≠ '=') with
    | [] =>
      match rank? name with
      | some n => .ok ⟨none, n⟩
      | none => .ok ⟨some name, 5⟩
    | [_] => .ok ⟨some name, 5⟩
    | _ :: word =>
      match rank? (String.ofList word) with
      | some n => .ok ⟨some name, n⟩
      | none => .error .rank

/-- Which lines are written. -/
structure Filter where
  directives : List Directive

namespace Filter

/-- The rules of a text between commas, each with what came of reading it. -/
def parts (s : String) : List (String × Except DirectiveError Directive) :=
  ((s.splitOn ",").filter fun part => !part.isEmpty).map fun part => (part, Directive.ofText part)

/-- The filter of rules; without any only errors are written. -/
def ofDirectives (ds : List Directive) : Filter :=
  ⟨if ds.isEmpty then [⟨none, 1⟩] else ds⟩

/-- The filter of a text, and a complaint about each rule that is left out. -/
def ofText (s : String) : Filter × List String :=
  (ofDirectives ((parts s).filterMap fun p => Except.toOption p.2),
    (parts s).filterMap fun (part, d) =>
      match d with
      | .ok _ => none
      | .error e => some s!"ignoring `{part}`: {e.message}")

/-- `true` iff a rule is about a source. -/
def covers (d : Directive) (source : String) : Bool :=
  d.target.all fun t => source.startsWith t

/-- The length of the target of a rule; one with a longer target goes before another. -/
def weight (d : Directive) : Nat :=
  match d.target with
  | some t => t.length + 1
  | none => 0

/-- The rank up to which lines of a source are written: the rule with the longest target decides, of
    two with the same target the later one. -/
def rankOf (f : Filter) (source : String) : Nat :=
  ((f.directives.filter (covers · source)).foldl (fun best d =>
    if best.1 ≤ weight d then (weight d, d.rank) else best) (0, 0)).2

/-- `true` iff a line is written. -/
def admits (f : Filter) (l : Line) : Bool :=
  l.level.rank ≤ f.rankOf l.source

end Filter

end Rebac.Log
