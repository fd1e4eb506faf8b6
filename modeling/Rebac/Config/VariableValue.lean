import Rebac.Config.Tree
import Rebac.Decimal.Plain
import Rebac.Store.Page
import Rebac.Text.Blank

namespace Rebac.Config

/-!
# Values of variables

The value of a variable is a truth value, a number, a quoted string, a quoted character, a list in
brackets, or a table in braces; anything else stands for itself as a text.

* `Tree.ofVariable` is the tree of a value.
-/

namespace VariableValue

/-- Reads from the front of a text. -/
abbrev Reader (α : Type) := List Char → Option (α × List Char)

/-- A blank between parts. -/
def isSpace (c : Char) : Bool :=
  c = ' ' || c = '\t' || c = '\n'

/-- A character that ends a bare word. -/
def isSeparator (c : Char) : Bool :=
  [',', '\x7b', '\x7d', '[', ']'].contains c

/-- The value of a hexadecimal digit of either case. -/
def hexDigit? (c : Char) : Option Nat :=
  if '0' ≤ c && c ≤ '9' then some (c.toNat - 48)
  else if 'a' ≤ c && c ≤ 'f' then some (c.toNat - 87)
  else if 'A' ≤ c && c ≤ 'F' then some (c.toNat - 55)
  else none

/-- The character of a code point in hexadecimal digits. -/
def codePoint? (cs : List Char) : Option Char := do
  let digits ← cs.mapM hexDigit?
  let code := digits.foldl (fun acc d => acc * 16 + d) 0
  if code.isValidChar then some (Char.ofNat code) else none

/-- The text that stands between quotes, with its escapes. -/
def unescaped : List Char → Option (List Char)
  | [] => some []
  | '\\' :: 'b' :: rest => (unescaped rest).map ('\x08' :: ·)
  | '\\' :: 'f' :: rest => (unescaped rest).map ('\x0c' :: ·)
  | '\\' :: 'n' :: rest => (unescaped rest).map ('\n' :: ·)
  | '\\' :: 'r' :: rest => (unescaped rest).map ('\r' :: ·)
  | '\\' :: 't' :: rest => (unescaped rest).map ('\t' :: ·)
  | '\\' :: '"' :: rest => (unescaped rest).map ('"' :: ·)
  | '\\' :: '\\' :: rest => (unescaped rest).map ('\\' :: ·)
  | '\\' :: 'u' :: a :: b :: c :: d :: rest => do
    let p ← codePoint? [a, b, c, d]
    let more ← unescaped rest
    some (p :: more)
  | '\\' :: 'U' :: a :: b :: c :: d :: e :: f :: g :: h :: rest => do
    let p ← codePoint? [a, b, c, d, e, f, g, h]
    let more ← unescaped rest
    some (p :: more)
  | '\\' :: _ => none
  | c :: rest =>
    if c = '\t' || (0x20 ≤ c.toNat && c.toNat ≠ 0x7f) then (unescaped rest).map (c :: ·) else none

/-- The characters up to the closing quote; a backslash takes the next character with it. -/
def untilQuote : List Char → Option (List Char × List Char)
  | [] => none
  | '"' :: rest => some ([], rest)
  | '\\' :: c :: rest => (untilQuote rest).map fun (inner, rest) => ('\\' :: c :: inner, rest)
  | c :: rest => (untilQuote rest).map fun (inner, rest) => (c :: inner, rest)

/-- A quoted string, read after its first quote. -/
def readQuoted : Reader String := fun cs => do
  let (inner, rest) ← untilQuote cs
  let s ← unescaped inner
  some (String.ofList s, rest)

/-- The name of an entry: a quoted string or a word. -/
def readName : Reader String
  | '"' :: rest => readQuoted rest
  | cs =>
    let isPart : Char → Bool := fun c => c.isAlphanum || c = '_' || c = '-'
    let word := cs.takeWhile isPart
    if word.isEmpty then none else some (String.ofList word, cs.dropWhile isPart)

/-- The double of a decimal with a point. -/
def float? (cs : List Char) : Option Float :=
  let (negative, rest) := match cs with
    | '+' :: rest => (false, rest)
    | '-' :: rest => (true, rest)
    | cs => (false, cs)
  let isExponent : Char → Bool := fun c => c = 'e' || c = 'E'
  let mantissa := rest.takeWhile (!isExponent ·)
  let whole := mantissa.takeWhile (· ≠ '.')
  let fraction := (mantissa.dropWhile (· ≠ '.')).drop 1
  let number? : List Char → Option Nat := fun cs =>
    cs.foldlM (fun n c => (Store.digit? c).map fun d => n * 10 + d) 0
  let exponent? : Option Int :=
    match rest.dropWhile (!isExponent ·) with
    | [] => some 0
    | [_] => none
    | _ :: '-' :: digits => if digits.isEmpty then none else (number? digits).map fun n => -(n : Int)
    | _ :: '+' :: digits => if digits.isEmpty then none else (number? digits).map fun n => (n : Int)
    | _ :: digits => (number? digits).map fun n => (n : Int)
  if whole.isEmpty && fraction.isEmpty then none
  else do
    let digits ← number? (whole ++ fraction)
    let exponent ← exponent?
    some (Decimal.ofDigits negative digits (exponent - fraction.length))

/-- The number with a minus sign that fits into 64 bits. -/
def negative? (cs : List Char) : Option Int :=
  match cs with
  | '-' :: rest =>
    match Store.digitsFrom? 0 rest with
    | some n => if rest.isEmpty || 2 ^ 63 < n then none else some (-(n : Int))
    | none => none
  | _ => none

/-- What a bare word stands for. -/
def ofWord (cs : List Char) : Given :=
  let word := Text.trimChars cs
  match if word.contains '.' then float? word else none with
  | some x => .float x
  | none =>
    match Store.decimal? word with
    | some n => .unsigned n
    | none =>
      match negative? word with
      | some i => .signed i
      | none => .text (String.ofList word)

/-- The items of a list up to its closing bracket; a comma may follow the last one. -/
def readAll {α : Type} (close : Char) (item : Reader α) : Nat → Reader (List α)
  | 0, _ => none
  | fuel + 1, cs =>
    match cs with
    | [] => none
    | c :: rest =>
      if c = close then some ([], rest)
      else do
        let (a, rest) ← item cs
        match rest with
        | ',' :: rest =>
          let (as, rest) ← readAll close item fuel rest
          some (a :: as, rest)
        | c :: rest => if c = close then some ([a], rest) else none
        | [] => none

/-- An entry of a table. -/
def readEntry (value : Reader Tree) : Reader (String × Tree) := fun cs => do
  let (name, rest) ← readName (cs.dropWhile isSpace)
  match rest.dropWhile isSpace with
  | '=' :: rest =>
    let (t, rest) ← value rest
    some ((name, t), rest)
  | _ => none

/-- What follows a word at the front of a text. -/
def after? (word : String) (cs : List Char) : Option (List Char) :=
  if word.toList.isPrefixOf cs then some (cs.drop word.length) else none

/-- A value, where the values inside it are read by the given reader. -/
def readBare (value : Reader Tree) : Reader Tree := fun cs =>
  let leaf := Tree.leaf .environment
  match after? "true" cs, after? "false" cs with
  | some rest, _ => some (leaf (.flag true), rest)
  | _, some rest => some (leaf (.flag false), rest)
  | none, none =>
    match cs with
    | '\x7b' :: rest =>
      (readAll '\x7d' (readEntry value) (rest.length + 1) rest).map fun (es, rest) =>
        (.table .environment (es.foldl (fun done e => Tree.put e.1 e.2 done) []), rest)
    | '[' :: rest =>
      (readAll ']' value (rest.length + 1) rest).map fun (items, rest) =>
        (.list .environment items, rest)
    | '"' :: rest => (readQuoted rest).map fun (s, rest) => (leaf (.text s), rest)
    | '\'' :: rest =>
      match rest with
      | c :: '\'' :: rest => some (leaf (.text (String.ofList [c])), rest)
      | _ => none
    | cs =>
      some (leaf (ofWord (cs.takeWhile (!isSeparator ·))), cs.dropWhile (!isSeparator ·))

/-- A value with the blanks around it. -/
def read : Nat → Reader Tree
  | 0, _ => none
  | fuel + 1, cs =>
    (readBare (read fuel) (cs.dropWhile isSpace)).map fun (t, rest) => (t, rest.dropWhile isSpace)

end VariableValue

/-- The tree of the value of a variable. A value that cannot be read to its end is a text. -/
@[irreducible]
def Tree.ofVariable (value : String) : Tree :=
  let value := Text.trim value
  match VariableValue.read (value.length + 1) value.toList with
  | some (t, []) => t
  | _ => .leaf .environment (.text value)

end Rebac.Config
