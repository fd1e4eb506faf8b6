namespace Rebac.Json

/-!
# Faults of JSON text

* `SyntaxError` names what is wrong with a text at one place.
* `Fault` pairs the error a reader reports with the one reported where the value is only skipped:
  a skipped value is checked less closely, and the two ways of going on expect different things.
-/

/-- What is wrong with a text at one place. -/
inductive SyntaxError where
  | endOfList
  | endOfObject
  | endOfString
  | endOfValue
  | expectedColon
  | expectedListCommaOrEnd
  | expectedObjectCommaOrEnd
  | expectedIdent
  | expectedValue
  | invalidEscape
  | invalidNumber
  | numberOutOfRange
  | invalidCodePoint
  | controlCharacter
  | keyMustBeString
  | loneSurrogate
  | trailingComma
  | trailingCharacters
  | unexpectedEndOfHexEscape
  | tooDeep
  deriving DecidableEq, Inhabited

/-- The wording of a fault. -/
def SyntaxError.message : SyntaxError → String
  | endOfList => "EOF while parsing a list"
  | endOfObject => "EOF while parsing an object"
  | endOfString => "EOF while parsing a string"
  | endOfValue => "EOF while parsing a value"
  | expectedColon => "expected `:`"
  | expectedListCommaOrEnd => "expected `,` or `]`"
  | expectedObjectCommaOrEnd => "expected `,` or `\x7d`"
  | expectedIdent => "expected ident"
  | expectedValue => "expected value"
  | invalidEscape => "invalid escape"
  | invalidNumber => "invalid number"
  | numberOutOfRange => "number out of range"
  | invalidCodePoint => "invalid unicode code point"
  | controlCharacter => "control character (\\u0000-\\u001F) found while parsing a string"
  | keyMustBeString => "key must be a string"
  | loneSurrogate => "lone leading surrogate in hex escape"
  | trailingComma => "trailing comma"
  | trailingCharacters => "trailing characters"
  | unexpectedEndOfHexEscape => "unexpected end of hex escape"
  | tooDeep => "recursion limit exceeded"

/-- Where a text stops being JSON: the error for a reader that wants the value, and the error for
    one that skips it. -/
structure Fault where
  read : SyntaxError
  skip : SyntaxError
  deriving DecidableEq

/-- A fault that is reported in the same way to both kinds of reader. -/
def Fault.plain (e : SyntaxError) : Fault :=
  ⟨e, e⟩

end Rebac.Json
