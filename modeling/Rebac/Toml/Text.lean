import Rebac.Toml.Value

namespace Rebac.Toml

/-!
# Strings and keys

Four kinds of strings: with or without escapes, on one line or on several. A key is a bare word or a
string of one line; a path is a list of keys with points between them.

* `readText` reads a string of any kind, `readPath` a path of keys.
-/

/-- A blank within a line. -/
def isBlank (c : Char) : Bool :=
  c = ' ' || c = '\t'

/-- The text after the blanks in front of it. -/
def skipBlanks (cs : List Char) : List Char :=
  cs.dropWhile isBlank

/-- A character that may not be written as itself. -/
def isControl (c : Char) : Bool :=
  (c.toNat < 0x20 && c ≠ '\t') || c.toNat = 0x7f

/-- What follows an end of line. -/
def newline? : List Char → Option (List Char)
  | '\n' :: rest => some rest
  | '\r' :: '\n' :: rest => some rest
  | _ => none

/-- The value of a hexadecimal digit. -/
def hexDigit? (c : Char) : Option Nat :=
  if '0' ≤ c && c ≤ '9' then some (c.toNat - 48)
  else if 'a' ≤ c && c ≤ 'f' then some (c.toNat - 87)
  else if 'A' ≤ c && c ≤ 'F' then some (c.toNat - 55)
  else none

/-- The character of a code point in `n` hexadecimal digits. -/
def readCodePoint (n : Nat) : Reader Char := fun cs => do
  let digits ← (cs.take n).mapM hexDigit?
  let code := digits.foldl (fun acc d => acc * 16 + d) 0
  if digits.length = n && code.isValidChar then some (Char.ofNat code, cs.drop n) else none

/-- The character of an escape, read after its backslash. -/
def readEscape : Reader Char
  | 'b' :: rest => some ('\x08', rest)
  | 't' :: rest => some ('\t', rest)
  | 'n' :: rest => some ('\n', rest)
  | 'f' :: rest => some ('\x0c', rest)
  | 'r' :: rest => some ('\r', rest)
  | '"' :: rest => some ('"', rest)
  | '\\' :: rest => some ('\\', rest)
  | 'u' :: rest => readCodePoint 4 rest
  | 'U' :: rest => readCodePoint 8 rest
  | _ => none

/-- The rest of a string with escapes on one line. -/
def readBasic : Nat → List Char → Reader String
  | 0, _, _ => none
  | _ + 1, done, '"' :: rest => some (String.ofList done.reverse, rest)
  | fuel + 1, done, '\\' :: rest => do
    let (c, rest) ← readEscape rest
    readBasic fuel (c :: done) rest
  | fuel + 1, done, c :: rest => if isControl c then none else readBasic fuel (c :: done) rest
  | _ + 1, _, [] => none

/-- The rest of a string without escapes on one line. -/
def readLiteral (done : List Char) : Reader String
  | '\'' :: rest => some (String.ofList done.reverse, rest)
  | c :: rest => if isControl c then none else readLiteral (c :: done) rest
  | [] => none

/-- The text without the end of line in front of it. -/
def dropNewline (cs : List Char) : List Char :=
  (newline? cs).getD cs

/-- The text after blanks and ends of lines. -/
def skipLines : List Char → List Char
  | ' ' :: rest => skipLines rest
  | '\t' :: rest => skipLines rest
  | '\n' :: rest => skipLines rest
  | '\r' :: '\n' :: rest => skipLines rest
  | other => other

/-- A run of quotes inside or at the end of a string of several lines: three close the string, and up
    to two more in front of them belong to it. -/
def closing? (quote : Char) (cs : List Char) : Option (List Char × List Char) :=
  let run := cs.takeWhile (· = quote)
  if run.length < 3 then none
  else if 5 < run.length then some (run.take 2, cs.drop 5)
  else some (run.drop 3, cs.drop run.length)

/-- The rest of a string with escapes on several lines. A backslash at the end of a line takes away
    the end of the line and the blanks after it. -/
def readLongBasic : Nat → List Char → Reader String
  | 0, _, _ => none
  | _ + 1, _, [] => none
  | fuel + 1, done, '"' :: rest =>
    match closing? '"' ('"' :: rest) with
    | some (more, rest) => some (String.ofList (done.reverse ++ more), rest)
    | none => readLongBasic fuel ('"' :: done) rest
  | fuel + 1, done, '\\' :: rest =>
    match newline? (skipBlanks rest) with
    | some rest => readLongBasic fuel done (skipLines rest)
    | none => do
      let (c, rest) ← readEscape rest
      readLongBasic fuel (c :: done) rest
  | fuel + 1, done, '\r' :: '\n' :: rest => readLongBasic fuel ('\n' :: done) rest
  | fuel + 1, done, c :: rest =>
    if isControl c && c ≠ '\n' then none else readLongBasic fuel (c :: done) rest

/-- The rest of a string without escapes on several lines. -/
def readLongLiteral : Nat → List Char → Reader String
  | 0, _, _ => none
  | _ + 1, _, [] => none
  | fuel + 1, done, '\'' :: rest =>
    match closing? '\'' ('\'' :: rest) with
    | some (more, rest) => some (String.ofList (done.reverse ++ more), rest)
    | none => readLongLiteral fuel ('\'' :: done) rest
  | fuel + 1, done, '\r' :: '\n' :: rest => readLongLiteral fuel ('\n' :: done) rest
  | fuel + 1, done, c :: rest =>
    if isControl c && c ≠ '\n' then none else readLongLiteral fuel (c :: done) rest

/-- A string of any kind. -/
def readText : Reader String
  | '"' :: '"' :: '"' :: rest => readLongBasic (rest.length + 1) [] (dropNewline rest)
  | '"' :: rest => readBasic (rest.length + 1) [] rest
  | '\'' :: '\'' :: '\'' :: rest => readLongLiteral (rest.length + 1) [] (dropNewline rest)
  | '\'' :: rest => readLiteral [] rest
  | _ => none

/-- A character of a bare key. -/
def isBareChar (c : Char) : Bool :=
  c.isAlphanum || c = '_' || c = '-'

/-- A key. -/
def readKey : Reader String
  | '"' :: rest => readBasic (rest.length + 1) [] rest
  | '\'' :: rest => readLiteral [] rest
  | cs =>
    let word := cs.takeWhile isBareChar
    if word.isEmpty then none else some (String.ofList word, cs.dropWhile isBareChar)

/-- A path must have fewer keys than this. -/
def nestingLimit : Nat := 80

/-- A path of at most `n` keys with blanks around them. -/
def readKeys : Nat → Reader (List String)
  | 0, _ => none
  | n + 1, cs => do
    let (key, rest) ← readKey (skipBlanks cs)
    match skipBlanks rest with
    | '.' :: rest =>
      let (keys, rest) ← readKeys n rest
      some (key :: keys, rest)
    | rest => some ([key], rest)

/-- A path. -/
def readPath : Reader (List String) :=
  readKeys (nestingLimit - 1)

end Rebac.Toml
