import Rebac.Power

namespace Rebac.CommandLine

/-!
# Options of a command line

Every option has a value. It is given as `--name value` or `--name=value`, or with the letter of the
option as `-n value`, `-nvalue` or `-n=value`. An option is given at most once.

* `Options.read` takes the options from the front of a command line.
-/

/-- An option: its name, and the letter that also stands for it. -/
structure Parameter where
  name : String
  letter : Option Char
  deriving DecidableEq

/-- Why a command line is not carried out. -/
inductive Refusal where
  /-- It is no command line of the program. -/
  | usage
  /-- It asks for help or for the version. -/
  | information
  deriving DecidableEq

/-- The given options with their values. -/
abbrev Given := List (String × String)

/-- What a word of a command line is. -/
inductive Word where
  /-- An option without its value. -/
  | name (p : Parameter)
  /-- An option with its value. -/
  | full (p : Parameter) (value : String)
  /-- Asks for help or for the version. -/
  | information
  /-- Looks like an option but is none. -/
  | unknown
  /-- Does not look like an option. -/
  | plain
  deriving DecidableEq

namespace Options

/-- `true` iff a word looks like an option, so that it is not taken for a value. -/
def looksLikeOption (word : String) : Bool :=
  word.startsWith "-" && 1 < word.length

/-- What a word is, given the options and the words that ask for help or for the version. -/
def classify (ps : List Parameter) (informing : List String) (word : String) : Word :=
  if informing.contains word then .information
  else
    match word.toList with
    | '-' :: '-' :: rest =>
      let name := String.ofList (rest.takeWhile (· ≠ '='))
      match ps.find? fun p => p.name = name, rest.dropWhile (· ≠ '=') with
      | none, _ => .unknown
      | some p, [] => .name p
      | some p, _ :: value => .full p (String.ofList value)
    | '-' :: letter :: rest =>
      match ps.find? fun p => p.letter = some letter, rest with
      | none, _ => .unknown
      | some p, [] => .name p
      | some p, '=' :: value => .full p (String.ofList value)
      | some p, value => .full p (String.ofList value)
    | _ => .plain

/-- Adds an option, which must not have been given before. -/
def give (given : Given) (p : Parameter) (value : String) : Except Refusal Given :=
  if given.any fun g => g.1 = p.name then .error .usage else .ok (given ++ [(p.name, value)])

/-- The options at the front of a command line, and the words from the first plain one on. -/
def readFrom (ps : List Parameter) (informing : List String) (given : Given) :
    List String → Except Refusal (Given × List String)
  | [] => .ok (given, [])
  | word :: rest =>
    match classify ps informing word with
    | .information => .error .information
    | .unknown => .error .usage
    | .plain => .ok (given, word :: rest)
    | .full p value => do
      let given ← give given p value
      readFrom ps informing given rest
    | .name p =>
      match rest with
      | [] => .error .usage
      | value :: rest =>
        if looksLikeOption value then .error .usage
        else do
          let given ← give given p value
          readFrom ps informing given rest

/-- The options at the front of a command line, and the words from the first plain one on. -/
def read (ps : List Parameter) (informing words : List String) :
    Except Refusal (Given × List String) :=
  readFrom ps informing [] words

/-- The value of an option. -/
def value? (given : Given) (p : Parameter) : Option String :=
  given.lookup p.name

/-- The number of a sign and decimal digits. -/
def integer? (s : String) : Option Int :=
  let (negative, digits) := match s.toList with
    | '-' :: rest => (true, rest)
    | '+' :: rest => (false, rest)
    | cs => (false, cs)
  if digits.isEmpty || !digits.all Char.isDigit then none
  else
    let n : Nat := digits.foldl (fun n c => n * 10 + (c.toNat - 48)) 0
    some (if negative then -(n : Int) else n)

/-- The number of a port. -/
def port? (s : String) : Option UInt16 :=
  (integer? s).bind fun i => if 0 ≤ i ∧ i < 2 ^ 16 then some (UInt16.ofNat i.toNat) else none

/-- The port that an option gives, if it is given; it must be one. -/
def portOf (given : Given) (p : Parameter) : Except Refusal (Option UInt16) :=
  match value? given p with
  | none => .ok none
  | some s =>
    match port? s with
    | some n => .ok (some n)
    | none => .error .usage

end Options

end Rebac.CommandLine
