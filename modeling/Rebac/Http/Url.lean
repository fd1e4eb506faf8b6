import Rebac.Json.Text

namespace Rebac.Http

/-!
# Addresses of pages

The form in which the address of a page is requested and shown: scheme and host in lower case, the
usual port left out, a path without dot segments and with escaped blanks.

* `Url.parse?` reads an address; one without a scheme or without a host cannot be used.
* `Url.text` writes it.
-/

/-- The address of a page. -/
structure Url where
  scheme : String
  host : String
  /-- The port, unless it is the usual one of the scheme. -/
  port : Option Nat
  /-- The segments of the path, each after a slash. -/
  segments : List String
  /-- The query with its question mark, or nothing. -/
  query : String
  deriving DecidableEq

namespace Url

/-- A character that may stand in a scheme after the first. -/
def isSchemeChar (c : Char) : Bool :=
  c.isAlphanum || c = '+' || c = '-' || c = '.'

/-- The scheme in lower case, and what follows the colon after it. -/
def scheme? (cs : List Char) : Option (String × List Char) :=
  let name := cs.takeWhile isSchemeChar
  match name, cs.dropWhile isSchemeChar with
  | first :: _, ':' :: rest =>
    if first.isAlpha then some ((String.ofList name).toLower, rest) else none
  | _, _ => none

/-- A slash of either direction. -/
def isSlash (c : Char) : Bool :=
  c = '/' || c = '\\'

/-- The schemes under which pages are requested, with their usual ports. -/
def usualPorts : List (String × Nat) := [("http", 80), ("https", 443)]

/-- A character that may stand in a host name. -/
def isHostChar (c : Char) : Bool :=
  c.isAlphanum || "!$&'()*+,-.;=_~[]:".toList.contains c

/-- The number of decimal digits, at most `2 ^ 16 - 1`. -/
def portNumber? (cs : List Char) : Option Nat :=
  if cs.all Char.isDigit then
    let n := cs.foldl (fun n c => n * 10 + (c.toNat - 48)) 0
    if n < 2 ^ 16 then some n else none
  else none

/-- Host and port of an authority. An address of sixteen bytes stands in brackets. -/
def hostAndPort? (cs : List Char) : Option (List Char × Option Nat) :=
  let (host, rest) :=
    if cs.head? = some '[' then
      (cs.takeWhile (· ≠ ']') ++ [']'], (cs.dropWhile (· ≠ ']')).drop 1)
    else (cs.takeWhile (· ≠ ':'), cs.dropWhile (· ≠ ':'))
  if host.isEmpty || !host.all isHostChar then none
  else
    match rest with
    | [] | [':'] => some (host, none)
    | ':' :: digits => (portNumber? digits).map fun n => (host, some n)
    | _ => none

/-- A byte that stands for itself in a path. -/
def isPlainByte (b : UInt8) : Bool :=
  0x21 ≤ b && b ≤ 0x7e && !("\"#<>?`\x7b\x7d".toList.any fun c => c.toUInt8 = b)

/-- The upper-case hexadecimal digit of a number below sixteen. -/
def upperHex (n : Nat) : Char :=
  (Char.ofNat (Json.hexDigit n).toNat).toUpper

/-- A text with every other byte written as a percent sign and two digits. -/
def escaped (cs : List Char) : String :=
  String.ofList ((Json.bytesOfText (String.ofList cs)).flatMap fun b =>
    if isPlainByte b then [Char.ofNat b.toNat]
    else ['%', upperHex (b.toNat / 16), upperHex (b.toNat % 16)])

/-- The parts of a text between slashes. -/
def slashParts (cs : List Char) : List (List Char) :=
  let (first, others) := cs.foldr (fun c (current, done) =>
    if isSlash c then ([], current :: done) else (c :: current, done)) ([], [])
  first :: others

/-- Removes dot segments: `.` stands for nothing and `..` takes back the segment before it. The last
    segment leaves an empty one behind. `done` is reversed. -/
def withoutDots (done : List String) : List String → List String
  | [] => done.reverse
  | [last] =>
    if last = "." then ("" :: done).reverse
    else if last = ".." then ("" :: done.drop 1).reverse
    else (last :: done).reverse
  | s :: rest =>
    if s = "." then withoutDots done rest
    else if s = ".." then withoutDots (done.drop 1) rest
    else withoutDots (s :: done) rest

/-- The text that a reader of addresses sees: without blanks at its ends, and without line ends and
    tabs. -/
def cleaned (s : String) : List Char :=
  let isBlankAtEnd : Char → Bool := fun c => c.toNat ≤ 0x20
  (((s.toList.dropWhile isBlankAtEnd).reverse.dropWhile isBlankAtEnd).reverse).filter fun c =>
    c ≠ '\t' && c ≠ '\n' && c ≠ '\r'

/-- Reads an address. -/
def parse? (s : String) : Option Url := do
  let (scheme, rest) ← scheme? (cleaned s)
  let rest := rest.dropWhile isSlash
  let ends : Char → Bool := fun c => isSlash c || c = '?' || c = '#'
  let authority := rest.takeWhile (!ends ·)
  let tail := (rest.dropWhile (!ends ·)).takeWhile (· ≠ '#')
  let user := authority.reverse.dropWhile (· ≠ '@')
  let place := if user.isEmpty then authority else (authority.reverse.takeWhile (· ≠ '@')).reverse
  let (host, port) ← hostAndPort? place
  let usual := (usualPorts.find? fun u => u.1 = scheme).map (·.2)
  let path := (tail.takeWhile (· ≠ '?')).drop 1
  some {
    scheme := scheme
    host := (String.ofList host).toLower
    port := if port = usual then none else port
    segments := withoutDots [] ((slashParts path).map escaped)
    query := escapedQuery (tail.dropWhile (· ≠ '?')) }
where
  /-- A query with its question mark kept. -/
  escapedQuery : List Char → String
    | [] => ""
    | c :: rest => String.ofList [c] ++ escaped rest

/-- `true` iff pages can be requested under the scheme. -/
def isRequestable (u : Url) : Bool :=
  usualPorts.any fun p => p.1 = u.scheme

/-- Writes an address. -/
def text (u : Url) : String :=
  let port := match u.port with
    | some n => s!":{n}"
    | none => ""
  u.scheme ++ "://" ++ u.host ++ port ++ String.join (u.segments.map ("/" ++ ·)) ++ u.query

end Url

end Rebac.Http
