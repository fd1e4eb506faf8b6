import Rebac.Json.Node

namespace Rebac.Json

/-!
# The text of a JSON string

A string is read in two steps. The first finds its end and cuts it into `Piece`s, plain bytes and
escaped code units; the second, `decodePieces`, joins the surrogate pairs and gives the bytes. Only
the second is left out when a string is skipped.

* `escapeByte` is how one byte stands in a written string.
* `writeText` is the whole written string, quotation marks included.
-/

/-- A byte of a JSON text that is written as the given ASCII character. -/
abbrev ascii (c : Char) : UInt8 := c.toUInt8

/-- A piece of a string: a byte that stands for itself or for a short escape, or a code unit given
    by four hexadecimal digits. -/
inductive Piece where
  | byte (value : UInt8)
  | unit (value : Nat)
  deriving DecidableEq

/-- Why the end of a string was not reached. -/
inductive TextStop where
  | endOfText
  | control
  | badLetter
  | badHex
  deriving DecidableEq

/-- The fault of an unfinished string. -/
def TextStop.error : TextStop → SyntaxError
  | endOfText => .endOfString
  | control => .controlCharacter
  | badLetter | badHex => .invalidEscape

/-- What follows a leading surrogate has to be another escape: the fault if the string stops there. -/
def TextStop.afterSurrogate : Option TextStop → SyntaxError
  | some .endOfText => .endOfString
  | some .badHex => .invalidEscape
  | _ => .unexpectedEndOfHexEscape

/-- `true` iff the code unit is the first half of a surrogate pair. -/
def isLeading (u : Nat) : Bool := 0xd800 ≤ u && u ≤ 0xdbff

/-- `true` iff the code unit is the second half of a surrogate pair. -/
def isTrailing (u : Nat) : Bool := 0xdc00 ≤ u && u ≤ 0xdfff

/-- The code point of a surrogate pair. -/
def pairValue (u v : Nat) : Nat := (u - 0xd800) * 0x400 + (v - 0xdc00) + 0x10000

/-- The bytes of a code point. -/
def codePointBytes (n : Nat) : List UInt8 :=
  String.utf8EncodeChar (Char.ofNat n)

/-- The bytes that the pieces stand for, in front of them those of `done`, which is reversed. -/
def decodePieces (stop : Option TextStop) :
    List UInt8 → List Piece → Except SyntaxError (List UInt8)
  | done, [] => match stop with
    | none => .ok done.reverse
    | some s => .error s.error
  | done, .byte b :: rest => decodePieces stop (b :: done) rest
  | done, [.unit u] =>
    if isTrailing u then .error .loneSurrogate
    else if isLeading u then .error (TextStop.afterSurrogate stop)
    else match stop with
      | none => .ok ((codePointBytes u).reverse ++ done).reverse
      | some s => .error s.error
  | done, .unit u :: .byte b :: rest =>
    if isTrailing u then .error .loneSurrogate
    else if isLeading u then .error .unexpectedEndOfHexEscape
    else decodePieces stop (b :: ((codePointBytes u).reverse ++ done)) rest
  | done, .unit u :: .unit v :: rest =>
    if isTrailing u then .error .loneSurrogate
    else if isLeading u then
      if isTrailing v then
        decodePieces stop ((codePointBytes (pairValue u v)).reverse ++ done) rest
      else .error .loneSurrogate
    else decodePieces stop ((codePointBytes u).reverse ++ done) (.unit v :: rest)

/-- The text of a byte sequence, if it is UTF-8. -/
def textOfBytes (bs : List UInt8) : Except SyntaxError String :=
  match String.fromUTF8? ⟨bs.toArray⟩ with
  | some s => .ok s
  | none => .error .invalidCodePoint

/-- The bytes of a text. -/
def bytesOfText (s : String) : List UInt8 :=
  s.toUTF8.data.toList

/-- The text of a finished string. -/
def piecesText (pieces : List Piece) : Except SyntaxError String := do
  let bs ← decodePieces none [] pieces
  textOfBytes bs

/-- The fault of a string that breaks off: a reader meets the faults inside the string first. -/
def piecesFault (pieces : List Piece) (stop : TextStop) : Fault :=
  match decodePieces (some stop) [] pieces with
  | .error e => ⟨e, stop.error⟩
  | .ok _ => .plain stop.error

/-! ### Writing -/

/-- The lower-case hexadecimal digit of a number below sixteen. -/
def hexDigit (n : Nat) : UInt8 :=
  if n < 10 then ascii '0' + n.toUInt8 else ascii 'a' + (n - 10).toUInt8

/-- How a byte stands in a written string: the quotation mark, the backslash and the control
    characters are escaped, everything else stands for itself. -/
def escapeByte (b : UInt8) : List UInt8 :=
  if b = ascii '"' then [ascii '\\', ascii '"']
  else if b = ascii '\\' then [ascii '\\', ascii '\\']
  else if b = 8 then [ascii '\\', ascii 'b']
  else if b = 12 then [ascii '\\', ascii 'f']
  else if b = 10 then [ascii '\\', ascii 'n']
  else if b = 13 then [ascii '\\', ascii 'r']
  else if b = 9 then [ascii '\\', ascii 't']
  else if b < 0x20 then
    [ascii '\\', ascii 'u', ascii '0', ascii '0', hexDigit (b.toNat / 16), hexDigit (b.toNat % 16)]
  else [b]

/-- A written string. -/
def writeText (s : String) : List UInt8 :=
  ascii '"' :: (bytesOfText s).flatMap escapeByte ++ [ascii '"']

end Rebac.Json
