import Rebac.Json.Reader
import Rebac.Metadata

namespace Rebac.Http

/-!
# Requests and responses

* `Request.ofTarget?` makes a request of its parts, if they can stand in one.
* `percentDecoded` is the text of a part of a path, `queryFields` are the fields of a query.
-/

/-- A request. The path is kept as it was sent. -/
structure Request where
  method : String
  path : String
  query : String
  headers : Metadata
  body : List UInt8

/-- A response. -/
structure Response where
  status : Nat
  headers : Metadata
  body : List UInt8

/-- A header with a text as its value. -/
def textHeader (name value : String) : Header :=
  ⟨name, Json.bytesOfText value⟩

/-- A byte that may stand in a path. -/
def isPathByte (b : UInt8) : Bool :=
  0x21 ≤ b && b ≠ 0x3c && b ≠ 0x3e && b ≠ 0x5c && b ≠ 0x5e && b ≠ 0x60 && b ≠ 0x7f

/-- A byte that may stand in a query. -/
def isQueryByte (b : UInt8) : Bool :=
  0x21 ≤ b && b ≠ 0x22 && b ≠ 0x3c && b ≠ 0x3e && b ≠ 0x7f

/-- The request of a method and a target, which is a path with a query; a fragment is dropped. The
    result is `none` if the method is no token or the target no absolute path. -/
def Request.ofTarget? (method target : String) (headers : Metadata) (body : List UInt8) :
    Option Request :=
  let cs := target.toList.takeWhile (· ≠ '#')
  let path := String.ofList (cs.takeWhile (· ≠ '?'))
  let query := String.ofList ((cs.dropWhile (· ≠ '?')).drop 1)
  if Header.isName method && path.startsWith "/" && (Json.bytesOfText path).all isPathByte
    && (Json.bytesOfText query).all isQueryByte then
    some ⟨method, path, query, headers, body⟩
  else none

/-! ### Percent signs -/

/-- The bytes of a text in which a percent sign and two hexadecimal digits stand for a byte. A percent
    sign without them stands for itself. -/
def percentBytes : List UInt8 → List UInt8
  | 0x25 :: a :: b :: rest =>
    match Json.hexValue a, Json.hexValue b with
    | some x, some y => UInt8.ofNat (x * 16 + y) :: percentBytes rest
    | _, _ => 0x25 :: percentBytes (a :: b :: rest)
  | c :: rest => c :: percentBytes rest
  | [] => []

/-- The text that a part of a path stands for, if it is one. -/
def percentDecoded (s : String) : Option String :=
  (Json.textOfBytes (percentBytes (Json.bytesOfText s))).toOption

/-! ### Queries -/

/-- The parts of a text between separators. -/
def partsBetween (separator : Char) (s : String) : List String :=
  (s.toList.splitOn separator).map String.ofList

/-- A name or a value of a query, where a plus sign stands for a blank. Bytes that are no text become
    replacement characters. -/
def queryText (s : String) : String :=
  let plain := String.ofList (s.toList.map fun c => if c = '+' then ' ' else c)
  let bytes := percentBytes (Json.bytesOfText plain)
  match Json.textOfBytes bytes with
  | .ok text => text
  | .error _ => String.ofList (bytes.map fun b => if b < 0x80 then Char.ofNat b.toNat else '\ufffd')

/-- The fields of a query in their order. -/
def queryFields (query : String) : List (String × String) :=
  ((partsBetween '&' query).filter fun part => !part.isEmpty).map fun part =>
    let cs := part.toList
    (queryText (String.ofList (cs.takeWhile (· ≠ '='))),
      queryText (String.ofList ((cs.dropWhile (· ≠ '=')).drop 1)))

end Rebac.Http
