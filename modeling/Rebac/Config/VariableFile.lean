import Rebac.Text.Alphanumeric
import Rebac.Text.Blank

namespace Rebac.Config

/-!
# Files of variables

A file of variables has a line `NAME=VALUE` for each; `export` may stand in front. A value may be
quoted, with or without escapes, may refer to other variables with a dollar sign, and a comment may
follow it.

* `withVariableFile` adds the variables that a text defines, up to the first line that cannot be read.
-/

/-- A variable: its name and its value. -/
abbrev Variable := String × String

/-- The value of a variable, if it is set. -/
def valueOf? (name : String) (vs : List Variable) : Option String :=
  (vs.find? fun v => v.1 = name).map (·.2)

/-! ### Lines

A quoted value may go over several lines. -/

/-- Where the end of a physical line is: outside of everything, after an unquoted blank, after a
    backslash, or inside quotes. -/
inductive LineState where
  | plain
  | blank
  | escape
  | single
  | singleEscape
  | double
  | doubleEscape
  | comment
  deriving DecidableEq

/-- The state after a character. -/
def LineState.step (c : Char) : LineState → LineState
  | plain =>
    if Text.isBlank c && c ≠ '\n' && c ≠ '\r' then blank
    else if c = '\\' then escape
    else if c = '"' then double
    else if c = '\'' then single
    else plain
  | blank =>
    if c = '#' then comment
    else if c = '\\' then escape
    else if c = '"' then double
    else if c = '\'' then single
    else plain
  | escape => plain
  | double => if c = '\\' then doubleEscape else if c = '"' then plain else double
  | doubleEscape => double
  | single => if c = '\\' then singleEscape else if c = '\'' then plain else single
  | singleEscape => single
  | comment => comment

/-- The characters in front of a comment, and the state at the end. -/
def scanLine (state : LineState) : List Char → List Char × LineState
  | [] => ([], state)
  | c :: rest =>
    match state.step c with
    | .comment => ([], .comment)
    | next =>
      let (kept, last) := scanLine next rest
      (c :: kept, last)

/-- A text cut after each end of line. -/
def physicalLines (cs : List Char) : List (List Char) :=
  let (current, done) := cs.foldr (fun c (current, done) =>
    if c = '\n' then ([c], if current.isEmpty then done else current :: done)
    else (c :: current, done)) (([] : List Char), ([] : List (List Char)))
  if current.isEmpty then done else current :: done

/-- The line without its end. -/
def withoutLineEnd (cs : List Char) : List Char :=
  match cs.reverse with
  | '\n' :: '\r' :: rest => rest.reverse
  | '\n' :: rest => rest.reverse
  | _ => cs

/-- The lines of a text, a quoted value being on one line; `none` at the end for a text that ends
    inside a value. A line that starts with a number sign is empty, even inside a value. -/
def logicalLines (done : List Char) (state : LineState) : List (List Char) → List (Option (List Char))
  | [] => if state = .plain then [] else [none]
  | line :: rest =>
    if ((done ++ line).dropWhile Text.isBlank).head? = some '#' then
      some [] :: logicalLines [] .plain rest
    else
      match scanLine state line with
      | (kept, .comment) => some (done ++ kept) :: logicalLines [] .plain rest
      | (_, .plain) => some (withoutLineEnd (done ++ line)) :: logicalLines [] .plain rest
      | (_, next) => logicalLines (done ++ line) next rest

/-! ### Values -/

/-- How a reference to another variable is written: after a dollar sign, or in braces. -/
inductive Reference where
  | bare
  | braced
  deriving DecidableEq

/-- The state of reading a value. -/
structure ValueState where
  /-- The value so far, last character first. -/
  done : List Char := []
  single : Bool := false
  double : Bool := false
  escaped : Bool := false
  /-- Whether only blanks and a comment may follow. -/
  ended : Bool := false
  /-- Whether a comment has begun. -/
  comment : Bool := false
  reference : Option Reference := none
  /-- The name that is referred to so far, last character first. -/
  name : List Char := []

/-- The state with the value of the variable that is referred to. -/
def ValueState.resolve (known : String → String) (s : ValueState) : ValueState :=
  { s with done := (known (String.ofList s.name.reverse)).toList.reverse ++ s.done, name := [] }

/-- The state after a character, `none` if it cannot stand there. -/
def ValueState.step (known : String → String) (s : ValueState) (c : Char) : Option ValueState :=
  let push := { s with done := c :: s.done }
  if s.comment then some s
  else if s.ended then
    if c = ' ' || c = '\t' then some s
    else if c = '#' then some { s with comment := true }
    else none
  else if s.escaped then
    let s := { s with escaped := false }
    if c = '\\' || c = '\'' || c = '"' || c = '$' || c = ' ' then some { s with done := c :: s.done }
    else if c = 'n' then some { s with done := '\n' :: s.done }
    else none
  else if s.single then
    if c = '\'' then some { s with single := false } else some push
  else
    match s.reference with
    | some kind =>
      if Text.isAlphanumeric c then some { s with name := c :: s.name }
      else
        match kind with
        | .bare =>
          if c = '\x7b' && s.name.isEmpty then some { s with reference := some .braced }
          else
            let s := s.resolve known
            if c = '$' then some { s with reference := some .bare }
            else some { s with reference := none, done := c :: s.done }
        | .braced =>
          if c = '\x7d' then some { s.resolve known with reference := none }
          else some { s with name := c :: s.name }
    | none =>
      if c = '$' then some { s with reference := some .bare }
      else if s.double then
        if c = '"' then some { s with double := false }
        else if c = '\\' then some { s with escaped := true }
        else some push
      else if c = '\'' then some { s with single := true }
      else if c = '"' then some { s with double := true }
      else if c = '\\' then some { s with escaped := true }
      else if c = ' ' || c = '\t' then some { s with ended := true }
      else some push

/-- The value that a text stands for; `known` are the values that it may refer to. -/
def value? (known : String → String) (cs : List Char) : Option String := do
  let s ← cs.foldlM (ValueState.step known) {}
  if s.reference = some .braced || s.single || s.double then none
  else some (String.ofList (s.resolve known).done.reverse)

/-- A name at the front of a line, and what follows it. -/
def name? (cs : List Char) : Option (List Char × List Char) :=
  match cs with
  | c :: _ =>
    if c.isAlpha || c = '_' then
      let isPart : Char → Bool := fun c => c.isAlphanum || c = '_' || c = '.'
      some (cs.takeWhile isPart, cs.dropWhile isPart)
    else none
  | [] => none

/-- What follows an equals sign at the front of a line, without blanks. -/
def afterEquals? (cs : List Char) : Option (List Char) :=
  match cs.dropWhile Text.isBlank with
  | '=' :: rest => some (rest.dropWhile Text.isBlank)
  | _ => none

/-- The name and the written value of a line. -/
def splitLine? (cs : List Char) : Option (List Char × List Char) := do
  let (name, rest) ← name? cs
  match afterEquals? rest with
  | some value => some (name, value)
  | none =>
    if name = "export".toList then
      let (name, rest) ← name? (rest.dropWhile Text.isBlank)
      let value ← afterEquals? rest
      some (name, value)
    else none

/-- What a line defines: nothing, or a variable; `none` if it cannot be read. -/
def lineVariable? (known : String → String) (line : List Char) : Option (Option Variable) :=
  let cs := Text.trimChars line
  if cs.isEmpty || cs.head? = some '#' then some none
  else do
    let (name, written) ← splitLine? cs
    if written.isEmpty || written.head? = some '#' then some (some (String.ofList name, ""))
    else
      let v ← value? known written
      some (some (String.ofList name, v))

/-- What a reference to a name means: the value of the environment, or else the last one that a line
    above has given. -/
def referred (environment stored : List Variable) (name : String) : String :=
  match valueOf? name environment with
  | some v => v
  | none => (valueOf? name stored).getD ""

/-- The environment with a variable; one that is set already keeps its value. -/
def withNew (environment : List Variable) (v : Variable) : List Variable :=
  if (valueOf? v.1 environment).isSome then environment else environment ++ [v]

/-- Adds the variables of lines to the environment until a line cannot be read. -/
def addLines (environment stored : List Variable) : List (Option (List Char)) → List Variable
  | [] => environment
  | none :: _ => environment
  | some line :: rest =>
    match lineVariable? (referred environment stored) line with
    | none => environment
    | some none => addLines environment stored rest
    | some (some v) => addLines (withNew environment v) (v :: stored) rest

/-- The lines of a file of variables. -/
def linesOf (text : String) : List (Option (List Char)) :=
  let cs := match text.toList with
    | '\ufeff' :: rest => rest
    | cs => cs
  logicalLines [] .plain (physicalLines cs)

/-- The environment together with the variables of a file; the environment has priority. -/
def withVariableFile (environment : List Variable) (text : String) : List Variable :=
  addLines environment [] (linesOf text)

end Rebac.Config
