import Rebac.Json.Text

namespace Rebac.Json

/-!
# Reading JSON text

A text is read by a machine that takes one byte at a time and keeps the containers that are still
open on a stack. Its state after a text does not depend on how the text is cut: reading `a ++ b` is
reading `a` and then `b`.

* `Mode` says what the machine is in the middle of, `Machine.step` takes one byte.
* `Machine.atEnd` stops at the end of the text, `Machine.document` is the tree that was read.
* `Document.ofBytes` is the tree of a whole text.
-/

/-- An open container: its contents so far, last first, and for an object the name of the member
    whose value is being read. -/
inductive Frame where
  | array (items : List Node)
  | object (members : List Member) (key : Option Key)

/-- Where a value stands: alone, first in a list, or after a comma in a list. -/
inductive Place where
  | alone
  | first
  | next
  deriving DecidableEq

/-- What has been read of an escape. -/
inductive Escape where
  | none
  | backslash
  | hex (digits : List UInt8)

/-- What has been read of a number. -/
inductive Phase where
  | minus
  | zero
  | whole
  | point
  | fraction
  | mark
  | sign
  | exponent
  deriving DecidableEq

/-- What the machine is in the middle of. -/
inductive Mode where
  | value (place : Place)
  | key (place : Place)
  | colon
  | after
  | text (isKey : Bool) (pieces : List Piece) (escape : Escape)
  | number (literal : NumberLiteral) (phase : Phase)
  | word (rest : List UInt8) (node : Node)
  | done (node : Node) (trailing : Bool)
  | halted (node : Node)

/-- The machine: its mode and the open containers, innermost first. -/
structure Machine where
  mode : Mode
  stack : List Frame

/-- The machine before the first byte. -/
def Machine.start : Machine :=
  ⟨.value .alone, []⟩

/-- A container whose reading ends. -/
def Frame.close (stop : Option Fault) : Frame → Node
  | .array items => .array items.reverse stop
  | .object members _ => .object members.reverse stop

/-- A container with one more item, or with the value of the pending member. -/
def Frame.add (node : Node) : Frame → Frame
  | .array items => .array (node :: items)
  | .object members (some key) => .object ((key, node) :: members) none
  | .object members none => .object members none

/-- The tree of an interrupted text: `node` is what the innermost container was reading. -/
def unwind (fault : Fault) : List Frame → Node → Node
  | [], node => node
  | frame :: rest, node => unwind fault rest ((frame.add node).close (some fault))

/-- Stops at a value that cannot be read. -/
def Machine.haltAt (stack : List Frame) (fault : Fault) : Machine :=
  ⟨.halted (unwind fault stack (.broken fault)), []⟩

/-- Stops between the parts of the innermost container. -/
def Machine.haltInside (stack : List Frame) (fault : Fault) : Machine :=
  match stack with
  | [] => ⟨.halted (.broken fault), []⟩
  | frame :: rest => ⟨.halted (unwind fault rest (frame.close (some fault))), []⟩

/-- Goes on after a complete value. -/
def Machine.complete (stack : List Frame) (node : Node) : Machine :=
  match stack with
  | [] => ⟨.done node false, []⟩
  | frame :: rest => ⟨.after, frame.add node :: rest⟩

/-- Closes the innermost container. -/
def Machine.close (stack : List Frame) : Machine :=
  match stack with
  | [] => ⟨.halted (.broken (.plain .expectedValue)), []⟩
  | frame :: rest => .complete rest (frame.close none)

/-- `true` iff the byte may stand between the parts of a text. -/
def isBlankByte (b : UInt8) : Bool :=
  b = ascii ' ' || b = ascii '\n' || b = ascii '\t' || b = ascii '\r'

/-- `true` iff the byte is a decimal digit. -/
def isDigitByte (b : UInt8) : Bool :=
  ascii '0' ≤ b && b ≤ ascii '9'

/-- The value of a decimal digit. -/
def digitOf (b : UInt8) : Nat :=
  b.toNat - 48

/-- A number that starts with a minus sign. -/
def NumberLiteral.ofSign : NumberLiteral :=
  ⟨true, [], none, false, none⟩

/-- A number that starts with a digit. -/
def NumberLiteral.ofDigit (b : UInt8) : NumberLiteral :=
  ⟨false, [digitOf b], none, false, none⟩

/-- The tree of a complete number. -/
def NumberLiteral.node (l : NumberLiteral) : Node :=
  .number (match l.value with
    | some n => .ok n
    | none => .error .numberOutOfRange)

/-- The bytes after the first one of `true`, `false` and `null`. -/
def wordOf (b : UInt8) : Option (List UInt8 × Node) :=
  if b = ascii 'n' then some ([ascii 'u', ascii 'l', ascii 'l'], .null)
  else if b = ascii 't' then some ([ascii 'r', ascii 'u', ascii 'e'], .bool true)
  else if b = ascii 'f' then some ([ascii 'a', ascii 'l', ascii 's', ascii 'e'], .bool false)
  else none

/-- The first byte of a value. -/
def Machine.begin (stack : List Frame) (b : UInt8) : Machine :=
  if b = ascii '"' then ⟨.text false [] .none, stack⟩
  else if b = ascii '-' then ⟨.number .ofSign .minus, stack⟩
  else if isDigitByte b then
    ⟨.number (.ofDigit b) (if b = ascii '0' then .zero else .whole), stack⟩
  else if b = ascii '[' then ⟨.value .first, .array [] :: stack⟩
  else if b = ascii '\x7b' then ⟨.key .first, .object [] none :: stack⟩
  else match wordOf b with
    | some (rest, node) => ⟨.word rest node, stack⟩
    | none => .haltAt stack (.plain .expectedValue)

/-- A byte where a value is expected. -/
def Machine.onValue (place : Place) (stack : List Frame) (b : UInt8) : Machine :=
  if isBlankByte b then ⟨.value place, stack⟩
  else if b = ascii ']' && place = .first then .close stack
  else if b = ascii ']' && place = .next then
    .haltInside stack ⟨.trailingComma, .expectedValue⟩
  else .begin stack b

/-- A byte where the name of a member is expected. -/
def Machine.onKey (place : Place) (stack : List Frame) (b : UInt8) : Machine :=
  if isBlankByte b then ⟨.key place, stack⟩
  else if b = ascii '"' then ⟨.text true [] .none, stack⟩
  else if b = ascii '\x7d' && place = .first then .close stack
  else if b = ascii '\x7d' then .haltInside stack ⟨.trailingComma, .keyMustBeString⟩
  else .haltInside stack (.plain .keyMustBeString)

/-- A byte where the colon of a member is expected. -/
def Machine.onColon (stack : List Frame) (b : UInt8) : Machine :=
  if isBlankByte b then ⟨.colon, stack⟩
  else if b = ascii ':' then ⟨.value .alone, stack⟩
  else .haltAt stack (.plain .expectedColon)

/-- A byte after an item or a member. -/
def Machine.onAfter (stack : List Frame) (b : UInt8) : Machine :=
  if isBlankByte b then ⟨.after, stack⟩
  else match stack with
    | .object _ _ :: _ =>
      if b = ascii ',' then ⟨.key .next, stack⟩
      else if b = ascii '\x7d' then .close stack
      else .haltInside stack (.plain .expectedObjectCommaOrEnd)
    | _ =>
      if b = ascii ',' then ⟨.value .next, stack⟩
      else if b = ascii ']' then .close stack
      else .haltInside stack (.plain .expectedListCommaOrEnd)

/-- Gives the innermost object the name of its next member. -/
def Machine.named (stack : List Frame) (key : Key) : List Frame :=
  match stack with
  | .object members _ :: rest => .object members (some key) :: rest
  | other => other

/-- Ends a string. -/
def Machine.endText (isKey : Bool) (pieces : List Piece) (stack : List Frame) : Machine :=
  let text := piecesText pieces.reverse
  if isKey then ⟨.colon, Machine.named stack text⟩ else .complete stack (.text text)

/-- Stops inside a string. -/
def Machine.haltText (isKey : Bool) (pieces : List Piece) (stack : List Frame)
    (stop : TextStop) : Machine :=
  let fault := piecesFault pieces.reverse stop
  if isKey then .haltAt (Machine.named stack (.error fault.read)) fault else .haltAt stack fault

/-- The byte that a short escape stands for. -/
def shortEscape (b : UInt8) : Option UInt8 :=
  if b = ascii '"' then some (ascii '"')
  else if b = ascii '\\' then some (ascii '\\')
  else if b = ascii '/' then some (ascii '/')
  else if b = ascii 'b' then some 8
  else if b = ascii 'f' then some 12
  else if b = ascii 'n' then some 10
  else if b = ascii 'r' then some 13
  else if b = ascii 't' then some 9
  else none

/-- The value of a hexadecimal digit. -/
def hexValue (b : UInt8) : Option Nat :=
  if isDigitByte b then some (digitOf b)
  else if ascii 'a' ≤ b && b ≤ ascii 'f' then some (b.toNat - 87)
  else if ascii 'A' ≤ b && b ≤ ascii 'F' then some (b.toNat - 55)
  else none

/-- The number that hexadecimal digits denote, the last digit first. -/
def hexNumber : List UInt8 → Option Nat
  | [] => some 0
  | b :: rest => do
    let d ← hexValue b
    let n ← hexNumber rest
    some (n * 16 + d)

/-- A byte inside a string. -/
def Machine.onText (isKey : Bool) (pieces : List Piece) (escape : Escape) (stack : List Frame)
    (b : UInt8) : Machine :=
  match escape with
  | .none =>
    if b = ascii '"' then .endText isKey pieces stack
    else if b = ascii '\\' then ⟨.text isKey pieces .backslash, stack⟩
    else if b < 0x20 then .haltText isKey pieces stack .control
    else ⟨.text isKey (.byte b :: pieces) .none, stack⟩
  | .backslash =>
    if b = ascii 'u' then ⟨.text isKey pieces (.hex []), stack⟩
    else match shortEscape b with
      | some e => ⟨.text isKey (.byte e :: pieces) .none, stack⟩
      | none => .haltText isKey pieces stack .badLetter
  | .hex digits =>
    if digits.length < 3 then ⟨.text isKey pieces (.hex (b :: digits)), stack⟩
    else match hexNumber (b :: digits) with
      | some u => ⟨.text isKey (.unit u :: pieces) .none, stack⟩
      | none => .haltText isKey pieces stack .badHex

/-- `true` iff a number may end in this phase. -/
def Phase.isComplete : Phase → Bool
  | zero | whole | fraction | exponent => true
  | minus | point | mark | sign => false

/-- A digit inside a number; `none` where no digit may stand. -/
def NumberLiteral.addDigit (l : NumberLiteral) (phase : Phase) (b : UInt8) :
    Option (NumberLiteral × Phase) :=
  let d := digitOf b
  match phase with
  | .minus => some ({ l with whole := [d] }, if d = 0 then .zero else .whole)
  | .zero => none
  | .whole => some ({ l with whole := d :: l.whole }, .whole)
  | .point => some ({ l with fraction := some [d] }, .fraction)
  | .fraction => some ({ l with fraction := some (d :: l.fraction.getD []) }, .fraction)
  | .mark | .sign => some ({ l with exponent := some [d] }, .exponent)
  | .exponent => some ({ l with exponent := some (d :: l.exponent.getD []) }, .exponent)

/-- A byte after a complete value that needed no end mark. -/
def Machine.onNext (m : Machine) (b : UInt8) : Machine :=
  match m.mode with
  | .after => .onAfter m.stack b
  | .done node _ => ⟨.done node (!isBlankByte b), []⟩
  | _ => m

/-- A byte inside or right after a number. -/
def Machine.onNumber (l : NumberLiteral) (phase : Phase) (stack : List Frame) (b : UInt8) :
    Machine :=
  if isDigitByte b then
    match l.addDigit phase b with
    | some (l, phase) => ⟨.number l phase, stack⟩
    | none => .haltAt stack (.plain .invalidNumber)
  else if b = ascii '.' && (phase = .zero || phase = .whole) then
    ⟨.number { l with fraction := some [] } .point, stack⟩
  else if (b = ascii 'e' || b = ascii 'E') && phase ≠ .exponent && phase.isComplete then
    ⟨.number { l with exponent := some [] } .mark, stack⟩
  else if (b = ascii '+' || b = ascii '-') && phase = .mark then
    ⟨.number { l with exponentNegative := b = ascii '-' } .sign, stack⟩
  else if phase.isComplete then (Machine.complete stack l.node).onNext b
  else .haltAt stack (.plain .invalidNumber)

/-- A byte inside one of the three words. -/
def Machine.onWord (rest : List UInt8) (node : Node) (stack : List Frame) (b : UInt8) : Machine :=
  match rest with
  | [] => .complete stack node
  | [c] => if b = c then .complete stack node else .haltAt stack (.plain .expectedIdent)
  | c :: more => if b = c then ⟨.word more node, stack⟩ else .haltAt stack (.plain .expectedIdent)

/-- Takes one byte. -/
def Machine.step (m : Machine) (b : UInt8) : Machine :=
  match m.mode with
  | .value place => .onValue place m.stack b
  | .key place => .onKey place m.stack b
  | .colon => .onColon m.stack b
  | .after => .onAfter m.stack b
  | .text isKey pieces escape => .onText isKey pieces escape m.stack b
  | .number l phase => .onNumber l phase m.stack b
  | .word rest node => .onWord rest node m.stack b
  | .done node trailing => ⟨.done node (trailing || !isBlankByte b), []⟩
  | .halted node => ⟨.halted node, []⟩

/-- Ends a number that the end of the text makes complete. -/
def Machine.flush (m : Machine) : Machine :=
  match m.mode with
  | .number l phase => if phase.isComplete then .complete m.stack l.node else m
  | _ => m

/-- Stops at the end of the text, unless the value is complete. -/
def Machine.atEnd (m : Machine) : Machine :=
  match m.mode with
  | .value .first => .haltInside m.stack (.plain .endOfList)
  | .value .next => .haltInside m.stack (.plain .endOfValue)
  | .value .alone => .haltAt m.stack (.plain .endOfValue)
  | .key .next => .haltInside m.stack ⟨.endOfValue, .endOfObject⟩
  | .key _ => .haltInside m.stack (.plain .endOfObject)
  | .colon => .haltAt m.stack (.plain .endOfObject)
  | .after => match m.stack with
    | .object _ _ :: _ => .haltInside m.stack (.plain .endOfObject)
    | stack => .haltInside stack (.plain .endOfList)
  | .text isKey pieces _ => .haltText isKey pieces m.stack .endOfText
  | .number _ _ => .haltAt m.stack ⟨.endOfValue, .invalidNumber⟩
  | .word _ _ => .haltAt m.stack (.plain .endOfValue)
  | .done _ _ | .halted _ => m

/-- The tree that a machine at its end has read. -/
def Machine.document (m : Machine) : Document :=
  match m.mode with
  | .done node trailing => ⟨node, trailing⟩
  | .halted node => ⟨node, false⟩
  | _ => ⟨.broken (.plain .endOfValue), false⟩

/-- The tree of a text. -/
def Document.ofBytes (text : List UInt8) : Document :=
  (text.foldl Machine.step Machine.start).flush.atEnd.document

/-- The tree of a text that is given as a string. -/
def Document.ofText (text : String) : Document :=
  .ofBytes (bytesOfText text)

end Rebac.Json
