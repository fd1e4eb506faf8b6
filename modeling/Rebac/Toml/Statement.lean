import Rebac.Toml.Scalar

namespace Rebac.Toml

/-!
# Values and lines

* `readValue` reads a value of any kind.
* `statements?` cuts a text into the headers and entries of its lines.
-/

/-- What follows the rest of a line that holds nothing but a comment. -/
def lineEnd? (cs : List Char) : Option (List Char) :=
  let rest :=
    match skipBlanks cs with
    | '#' :: more => more.dropWhile (!isControl ·)
    | other => other
  if rest.isEmpty then some [] else newline? rest

/-- The text after blanks, comments and ends of lines. -/
def skipFiller : Nat → List Char → List Char
  | 0, cs => cs
  | fuel + 1, cs =>
    match skipBlanks cs with
    | '#' :: more =>
      match newline? (more.dropWhile (!isControl ·)) with
      | some rest => skipFiller fuel rest
      | none => '#' :: more
    | other =>
      match newline? other with
      | some rest => skipFiller fuel rest
      | none => other

/-- The items of a list up to its bracket; a comma may follow the last one. -/
def readItems (item : Reader Literal) : Nat → Reader (List Literal)
  | 0, _ => none
  | fuel + 1, cs =>
    match skipFiller cs.length cs with
    | ']' :: rest => some ([], rest)
    | cs => do
      let (v, rest) ← item cs
      match skipFiller rest.length rest with
      | ',' :: rest =>
        let (vs, rest) ← readItems item fuel rest
        some (v :: vs, rest)
      | ']' :: rest => some ([v], rest)
      | _ => none

/-- An entry: a path, an equals sign, and a value. -/
def readEntry (item : Reader Literal) : Reader (List String × Literal) := fun cs => do
  let (path, rest) ← readPath cs
  match skipBlanks rest with
  | '=' :: rest =>
    let (v, rest) ← item (skipBlanks rest)
    some ((path, v), rest)
  | _ => none

/-- The entries of an inline table up to its brace, after at least one of them. -/
def readEntries (item : Reader Literal) : Nat → Reader (List (List String × Literal))
  | 0, _ => none
  | fuel + 1, cs => do
    let (entry, rest) ← readEntry item cs
    match skipBlanks rest with
    | ',' :: rest =>
      let (entries, rest) ← readEntries item fuel rest
      some (entry :: entries, rest)
    | '\x7d' :: rest => some ([entry], rest)
    | _ => none

/-- A value in which lists and inline tables are nested to a limited depth. -/
def readNested : Nat → Reader Literal
  | depth, cs =>
    match cs with
    | '"' :: _ | '\'' :: _ => (readText cs).map fun (s, rest) => (.text s, rest)
    | '[' :: rest =>
      match depth with
      | 0 => none
      | depth + 1 =>
        (readItems (readNested depth) (rest.length + 1) rest).map fun (vs, rest) => (.array vs, rest)
    | '\x7b' :: rest =>
      match depth with
      | 0 => none
      | depth + 1 =>
        match skipBlanks rest with
        | '\x7d' :: rest => some (.table [], rest)
        | _ =>
          (readEntries (readNested depth) (rest.length + 1) rest).map fun (es, rest) =>
            (.table es, rest)
    | cs => readScalar cs

/-- A value. -/
def readValue : Reader Literal :=
  readNested nestingLimit

/-- What a line says. -/
inductive Statement where
  | header (path : List String)
  | listHeader (path : List String)
  | entry (path : List String) (value : Literal)

/-- The statement at the front of a text; `none` inside for a line without one. -/
def readStatement : Reader (Option Statement) := fun cs =>
  match skipBlanks cs with
  | [] => some (none, [])
  | '[' :: '[' :: rest => do
    let (path, rest) ← readPath rest
    match rest with
    | ']' :: ']' :: rest => some (some (.listHeader path), ← lineEnd? rest)
    | _ => none
  | '[' :: rest => do
    let (path, rest) ← readPath rest
    match rest with
    | ']' :: rest => some (some (.header path), ← lineEnd? rest)
    | _ => none
  | cs =>
    match lineEnd? cs with
    | some rest => some (none, rest)
    | none => do
      let ((path, v), rest) ← readEntry readValue cs
      some (some (.entry path v), ← lineEnd? rest)

/-- The statements of the lines of a text. -/
def statementsFrom : Nat → List Char → Option (List Statement)
  | 0, cs => if cs.isEmpty then some [] else none
  | fuel + 1, cs =>
    if cs.isEmpty then some []
    else do
      let (statement, rest) ← readStatement cs
      let more ← statementsFrom fuel rest
      some (statement.toList ++ more)

/-- The statements of a text; a byte order mark in front of it is left out. -/
def statements? (text : String) : Option (List Statement) :=
  let cs := match text.toList with
    | '\ufeff' :: rest => rest
    | cs => cs
  statementsFrom cs.length cs

end Rebac.Toml
