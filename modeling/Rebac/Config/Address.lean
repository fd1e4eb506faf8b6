import Rebac.Config.Settings
import Rebac.Text.Quoted

namespace Rebac.Config

/-!
# Addresses

An IP address in text form: four decimal numbers with points, or eight groups of hexadecimal digits
with colons, where one run of zero groups may be left out and the last two groups may be written as
four decimal numbers.

* `Address.parse?` reads an address, `Address.text` writes it; `Endpoint` has a port as well.
* `bindAddress` is the address and port a listener binds to.
-/

/-- An IP address: four bytes, or eight groups of sixteen bits. -/
inductive Address where
  | v4 (bytes : List Nat)
  | v6 (groups : List Nat)
  deriving DecidableEq

namespace Address

/-- The parts of a text between separators. -/
def splitAt (separator : Char) (cs : List Char) : List (List Char) :=
  let (first, others) := cs.foldr (fun c (current, done) =>
    if c = separator then ([], current :: done) else (c :: current, done)) ([], [])
  first :: others

/-- The value of a decimal digit. -/
def decimalDigit? (c : Char) : Option Nat :=
  if '0' ≤ c && c ≤ '9' then some (c.toNat - 48) else none

/-- The value of a hexadecimal digit of either case. -/
def hexDigit? (c : Char) : Option Nat :=
  if '0' ≤ c && c ≤ '9' then some (c.toNat - 48)
  else if 'a' ≤ c && c ≤ 'f' then some (c.toNat - 87)
  else if 'A' ≤ c && c ≤ 'F' then some (c.toNat - 55)
  else none

/-- The number that digits of a base denote. -/
def number? (base : Nat) (digit? : Char → Option Nat) (cs : List Char) : Option Nat :=
  cs.foldlM (fun n c => (digit? c).map fun d => n * base + d) 0

/-- A decimal number of one byte: at most three digits, no leading zero. -/
def byte? (cs : List Char) : Option Nat :=
  if cs.isEmpty || 3 < cs.length || (cs.head? = some '0' && 1 < cs.length) then none
  else (number? 10 decimalDigit? cs).bind fun n => if n < 256 then some n else none

/-- Four decimal numbers with points. -/
def bytes? (cs : List Char) : Option (List Nat) := do
  let ns ← (splitAt '.' cs).mapM byte?
  if ns.length = 4 then some ns else none

/-- A group of one to four hexadecimal digits. -/
def group? (cs : List Char) : Option Nat :=
  if cs.isEmpty || 4 < cs.length then none else number? 16 hexDigit? cs

/-- A run of groups; the last two may be written as four decimal numbers. -/
def groups? (cs : List Char) : Option (List Nat) :=
  if cs.isEmpty then some []
  else
    let parts := splitAt ':' cs
    match parts.getLast? with
    | none => none
    | some last =>
      if last.contains '.' then do
        let front ← parts.dropLast.mapM group?
        match ← bytes? last with
        | [a, b, c, d] => some (front ++ [a * 256 + b, c * 256 + d])
        | _ => none
      else parts.mapM group?

/-- The text before and after the first double colon. -/
def cutDouble : List Char → Option (List Char × List Char)
  | [] => none
  | ':' :: ':' :: rest => some ([], rest)
  | c :: rest => (cutDouble rest).map fun (a, b) => (c :: a, b)

/-- The groups of an address of sixteen bytes. -/
def v6Groups? (cs : List Char) : Option (List Nat) :=
  match cutDouble cs with
  | none => (groups? cs).bind fun gs => if gs.length = 8 then some gs else none
  | some (front, back) => do
    let a ← groups? front
    if front.contains '.' then none
    else
      let b ← groups? back
      if a.length + b.length ≤ 7 then some (a ++ List.replicate (8 - a.length - b.length) 0 ++ b)
      else none

/-- Reads an address. -/
def parse? (s : String) : Option Address :=
  match bytes? s.toList with
  | some bs => some (.v4 bs)
  | none => (v6Groups? s.toList).map .v6

/-- The longest run of zero groups, the first of several: where it starts and how long it is. -/
def longestRun : List Nat → Nat → Nat × Nat
  | [], _ => (0, 0)
  | g :: rest, position =>
    let here := if g = 0 then 1 + (rest.takeWhile (· = 0)).length else 0
    let later := longestRun rest (position + 1)
    if later.2 ≤ here then (position, here) else later

/-- Groups with colons between them. -/
def groupTexts (gs : List Nat) : String :=
  ":".intercalate (gs.map fun g => String.ofList (Nat.toDigits 16 g))

/-- Writes an address. The longest run of two or more zero groups is left out. -/
def text : Address → String
  | v4 bs => ".".intercalate (bs.map toString)
  | v6 gs =>
    match gs with
    | [0, 0, 0, 0, 0, 0xffff, a, b] =>
      "::ffff:" ++ ".".intercalate ([a / 256, a % 256, b / 256, b % 256].map toString)
    | _ =>
      let (start, size) := longestRun gs 0
      if size < 2 then groupTexts gs
      else groupTexts (gs.take start) ++ "::" ++ groupTexts (gs.drop (start + size))

end Address

/-- An address with a port. -/
structure Endpoint where
  address : Address
  port : Nat
  deriving DecidableEq

/-- Writes an address with a port. -/
def Endpoint.text (e : Endpoint) : String :=
  match e.address with
  | .v4 _ => s!"{e.address.text}:{e.port}"
  | .v6 _ => s!"[{e.address.text}]:{e.port}"

/-- A port number of any number of digits. -/
def port? (cs : List Char) : Option Nat :=
  if cs.isEmpty then none
  else (Address.number? 10 Address.decimalDigit? cs).bind fun n => if n < 2 ^ 16 then some n else none

/-- Reads an address with a port. An address of sixteen bytes stands in brackets. -/
def Endpoint.parse? (s : String) : Option Endpoint :=
  match s.toList with
  | '[' :: rest => do
    let groups ← Address.v6Groups? (rest.takeWhile (· ≠ ']'))
    match rest.dropWhile (· ≠ ']') with
    | ']' :: ':' :: digits => some ⟨.v6 groups, ← port? digits⟩
    | _ => none
  | cs => do
    let bytes ← Address.bytes? (cs.takeWhile (· ≠ ':'))
    match cs.dropWhile (· ≠ ':') with
    | ':' :: digits => some ⟨.v4 bytes, ← port? digits⟩
    | _ => none

/-- The reason why a host is not an address. -/
def badHost (host : String) : String :=
  "invalid host " ++ Text.quoted host ++ ": invalid IP address syntax"

/-- What a listener of that port binds to, or why it cannot. -/
def bindAddress (c : Config) (port : Nat) : Except String Endpoint :=
  match Address.parse? c.server.host with
  | some a => .ok ⟨a, port⟩
  | none => .error (badHost c.server.host)

end Rebac.Config
