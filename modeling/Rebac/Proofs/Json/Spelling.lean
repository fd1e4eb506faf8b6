import Rebac.Proofs.Json.Document

namespace Rebac.Json

/-!
# Every text of the grammar is read

The JSON texts, as the grammar spells them: with blanks between the parts, with escapes of every kind,
with fractions and exponents, and with any members in any order. Each of them is read as a document, and
the tree is told from the spelling alone.

* `Blank`, `Quoted`, `Numeral` — what stands between the parts, strings and numbers.
* `Spelling` — a spelled value, with its bytes `Spelling.bytes` and its tree `Spelling.node`.
* `Rests` — a machine that has read a value, whatever may follow it.
* `feed_quoted`, `rests_numeral` — strings and numbers are read.
* `rests_spelling` — **the machine after a spelled value has read its tree**, by recursion over it.
* `ofBytes_bytes` — **every text of the grammar is a document with its tree**.
-/

/-! ### Blanks -/

/-- A byte that may stand between the parts of a text. -/
inductive Blank where
  | space
  | tab
  | newline
  | carriageReturn
  deriving DecidableEq

def Blank.byte : Blank → UInt8
  | space => ascii ' '
  | tab => ascii '\t'
  | newline => ascii '\n'
  | carriageReturn => ascii '\r'

/-- The bytes of a run of blanks. -/
def blankBytes (blanks : List Blank) : List UInt8 :=
  blanks.map Blank.byte

/-- Every blank is read as one. -/
theorem isBlankByte_byte (b : Blank) : isBlankByte b.byte = true := by
  cases b <;> rfl

/-- A part of a text with the blanks around it. -/
structure Spaced (α : Type) where
  before : List Blank
  content : α
  after : List Blank

/-- Bytes between runs of blanks. -/
def spacedBytes (before : List Blank) (bytes : List UInt8) (after : List Blank) : List UInt8 :=
  blankBytes before ++ (bytes ++ blankBytes after)

/-- A machine that passes over a blank passes over any run of them. -/
theorem feed_waiting {m : Machine} (h : ∀ b, isBlankByte b = true → m.step b = m)
    (blanks : List Blank) : m.feed (blankBytes blanks) = m := by
  induction blanks with
  | nil => rfl
  | cons b rest ih =>
    show Machine.feed (m.step b.byte) (blankBytes rest) = m
    rw [h _ (isBlankByte_byte b), ih]

/-- Blanks may stand before a value. -/
theorem feed_blanks_value (place : Place) (stack : List Frame) (blanks : List Blank) :
    Machine.feed ⟨.value place, stack⟩ (blankBytes blanks) = ⟨.value place, stack⟩ :=
  feed_waiting (m := ⟨.value place, stack⟩) (fun _ hb => if_pos hb) blanks

/-- Blanks may stand before a name. -/
theorem feed_blanks_key (place : Place) (stack : List Frame) (blanks : List Blank) :
    Machine.feed ⟨.key place, stack⟩ (blankBytes blanks) = ⟨.key place, stack⟩ :=
  feed_waiting (m := ⟨.key place, stack⟩) (fun _ hb => if_pos hb) blanks

/-- Blanks may stand before a colon. -/
theorem feed_blanks_colon (stack : List Frame) (blanks : List Blank) :
    Machine.feed ⟨.colon, stack⟩ (blankBytes blanks) = ⟨.colon, stack⟩ :=
  feed_waiting (m := ⟨.colon, stack⟩) (fun _ hb => if_pos hb) blanks

/-! ### Strings -/

/-- A hexadecimal digit, which may be a capital. -/
structure HexDigit where
  value : Fin 16
  capital : Bool

def HexDigit.byte (d : HexDigit) : UInt8 :=
  if d.capital && 10 ≤ d.value.val then ascii 'A' + (d.value.val - 10).toUInt8
  else hexDigit d.value.val

/-- An escape with a letter of its own. -/
inductive ShortEscape where
  | quote
  | backslash
  | slash
  | backspace
  | formFeed
  | newline
  | carriageReturn
  | tab
  deriving DecidableEq

/-- The letter of an escape. -/
def ShortEscape.letter : ShortEscape → UInt8
  | quote => ascii '"'
  | backslash => ascii '\\'
  | slash => ascii '/'
  | backspace => ascii 'b'
  | formFeed => ascii 'f'
  | newline => ascii 'n'
  | carriageReturn => ascii 'r'
  | tab => ascii 't'

/-- The byte that an escape stands for. -/
def ShortEscape.value : ShortEscape → UInt8
  | quote => ascii '"'
  | backslash => ascii '\\'
  | slash => ascii '/'
  | backspace => 8
  | formFeed => 12
  | newline => 10
  | carriageReturn => 13
  | tab => 9

/-- A part of a string: a byte that stands for itself, or an escape. -/
inductive Glyph where
  | plain (b : UInt8) (legal : ¬ b < 0x20 ∧ b ≠ ascii '"' ∧ b ≠ ascii '\\')
  | short (escape : ShortEscape)
  | unit (a b c d : HexDigit)

def Glyph.bytes : Glyph → List UInt8
  | plain b _ => [b]
  | short e => [ascii '\\', e.letter]
  | unit a b c d => [ascii '\\', ascii 'u', a.byte, b.byte, c.byte, d.byte]

/-- What is read of a part of a string. -/
def Glyph.piece : Glyph → Piece
  | plain b _ => .byte b
  | short e => .byte e.value
  | unit a b c d => .unit (((a.value * 16 + b.value) * 16 + c.value) * 16 + d.value : Nat)

/-- A string. -/
abbrev Quoted := List Glyph

def Quoted.bytes (q : Quoted) : List UInt8 :=
  ascii '"' :: q.flatMap Glyph.bytes ++ [ascii '"']

/-- The text of a string, if its bytes and its surrogates are right. -/
def Quoted.text (q : Quoted) : Except SyntaxError String :=
  piecesText (q.map Glyph.piece)

/-- Every hexadecimal digit is read as its value. -/
theorem hexValue_byte (d : HexDigit) : hexValue d.byte = some d.value.val := by
  have hall : ∀ (v : Fin 16) (capital : Bool), hexValue (HexDigit.byte ⟨v, capital⟩) = some v.val := by
    decide
  exact hall d.value d.capital

/-- Four digits, the last one first, are a code unit. -/
theorem hexNumber_bytes (a b c d : HexDigit) :
    hexNumber [d.byte, c.byte, b.byte, a.byte]
      = some (((a.value * 16 + b.value) * 16 + c.value) * 16 + d.value : Nat) := by
  simp [hexNumber, hexValue_byte]

/-- A part of a string is read as its piece. -/
theorem feed_glyph (isKey : Bool) (pieces : List Piece) (stack : List Frame) (g : Glyph) :
    Machine.feed ⟨.text isKey pieces .none, stack⟩ g.bytes
      = ⟨.text isKey (g.piece :: pieces) .none, stack⟩ := by
  cases g with
  | plain b legal =>
    obtain ⟨hcontrol, hquote, hbackslash⟩ := legal
    show Machine.onText isKey pieces .none stack b = _
    rw [Machine.onText, if_neg hquote, if_neg hbackslash, if_neg hcontrol]
    rfl
  | short e => cases e <;> rfl
  | unit a b c d =>
    have hfull : ¬ [c.byte, b.byte, a.byte].length < 3 := Nat.lt_irrefl 3
    exact onText_hex hfull (hexNumber_bytes a b c d)

/-- The parts of a string are read as their pieces. -/
theorem feed_glyphs (isKey : Bool) (pieces : List Piece) (stack : List Frame) (q : Quoted) :
    Machine.feed ⟨.text isKey pieces .none, stack⟩ (q.flatMap Glyph.bytes)
      = ⟨.text isKey ((q.map Glyph.piece).reverse ++ pieces) .none, stack⟩ := by
  induction q generalizing pieces with
  | nil => rfl
  | cons g rest ih =>
    rw [List.flatMap_cons, Machine.feed_append, feed_glyph, ih, List.map_cons, List.reverse_cons,
      List.append_assoc]
    rfl

/-- **The machine after a string** has read its text. -/
theorem feed_quoted (isKey : Bool) (stack : List Frame) (q : Quoted) :
    Machine.feed ⟨.text isKey [] .none, stack⟩ (q.flatMap Glyph.bytes ++ [ascii '"'])
      = if isKey then ⟨.colon, Machine.named stack q.text⟩ else .complete stack (.text q.text) := by
  rw [Machine.feed_append, feed_glyphs, List.append_nil]
  show Machine.endText isKey (q.map Glyph.piece).reverse stack = _
  rw [Machine.endText, List.reverse_reverse]
  rfl

/-! ### Machines that have read a value -/

/-- A machine that goes on, and ends, as one that has read the value, even if a blank follows. -/
structure Rests (stack : List Frame) (node : Node) (m : Machine) : Prop extends
    Complete stack node m where
  blank : ∀ b, isBlankByte b = true → m.step b = .complete stack node

/-- A machine that has read a value rests on it. -/
theorem rests_complete (stack : List Frame) (node : Node) :
    Rests stack node (.complete stack node) := by
  refine ⟨complete_complete stack node, fun b hb => ?_⟩
  cases stack with
  | nil =>
    show (⟨.done node (false || !isBlankByte b), []⟩ : Machine) = ⟨.done node false, []⟩
    rw [hb]
    rfl
  | cons frame rest => exact if_pos hb

/-- Blanks after a value change nothing. -/
theorem Rests.feed_blanks {stack : List Frame} {node : Node} {m : Machine} (h : Rests stack node m)
    (blanks : List Blank) : Rests stack node (m.feed (blankBytes blanks)) := by
  cases blanks with
  | nil => exact h
  | cons b rest =>
    show Rests stack node (Machine.feed (m.step b.byte) (blankBytes rest))
    rw [h.blank _ (isBlankByte_byte b), feed_waiting (rests_complete stack node).blank]
    exact rests_complete stack node

/-- A value between blanks is read as the value. -/
theorem Rests.spaced {stack : List Frame} {place : Place} {node : Node} {bytes : List UInt8}
    (h : Rests stack node (Machine.feed ⟨.value place, stack⟩ bytes)) (before after : List Blank) :
    Rests stack node (Machine.feed ⟨.value place, stack⟩ (spacedBytes before bytes after)) := by
  rw [spacedBytes, Machine.feed_append, feed_blanks_value, Machine.feed_append]
  exact h.feed_blanks after

/-! ### Numbers -/

/-- A decimal digit. -/
abbrev Digit := { c : Char // c.isDigit = true }

/-- The bytes of digits. -/
def digitBytes (ds : List Digit) : List UInt8 :=
  ds.map fun d => ascii d.val

/-- The values of digits, the last one first. -/
def digitValues (ds : List Digit) : List Nat :=
  (ds.map fun d => digitValue d.val).reverse

/-- An exponent: its mark, which may be a capital, its sign, if there is one, and its digits. -/
structure Exponent where
  capital : Bool
  minus : Option Bool
  first : Digit
  more : List Digit

/-- A number: its sign, its digits before the point, which have no leading zero, its digits after the
    point and its exponent, if there are any. -/
structure Numeral where
  negative : Bool
  first : Digit
  more : List Digit
  leading : digitValue first.val = 0 → more = []
  fraction : Option (Digit × List Digit)
  exponent : Option Exponent

def Exponent.bytes (e : Exponent) : List UInt8 :=
  (if e.capital then ascii 'E' else ascii 'e') ::
    ((e.minus.map fun minus => if minus then ascii '-' else ascii '+').toList
      ++ digitBytes (e.first :: e.more))

def Numeral.bytes (n : Numeral) : List UInt8 :=
  (if n.negative then [ascii '-'] else []) ++ (digitBytes (n.first :: n.more)
    ++ (n.fraction.toList.flatMap (fun f => ascii '.' :: digitBytes (f.1 :: f.2))
      ++ n.exponent.toList.flatMap Exponent.bytes))

/-- What is read of a number. -/
def Numeral.literal (n : Numeral) : NumberLiteral where
  negative := n.negative
  whole := digitValues (n.first :: n.more)
  fraction := n.fraction.map fun f => digitValues (f.1 :: f.2)
  exponentNegative := n.exponent.any fun e => e.minus = some true
  exponent := n.exponent.map fun e => digitValues (e.first :: e.more)

/-- A number may end in any phase that is complete. -/
theorem rests_number (l : NumberLiteral) {phase : Phase} (h : phase.isComplete = true)
    (stack : List Frame) : Rests stack l.node ⟨.number l phase, stack⟩ := by
  -- What may follow is neither a digit nor another part of a number.
  have hnext : ∀ b, isDigitByte b = false → b ≠ ascii '.' → b ≠ ascii 'e' → b ≠ ascii 'E' →
      b ≠ ascii '+' → b ≠ ascii '-' →
      Machine.step ⟨.number l phase, stack⟩ b = (Machine.complete stack l.node).step b := by
    intro b hdigit hpoint hlower hcapital hplus hminus
    show Machine.onNumber l phase stack b = _
    simp only [Machine.onNumber, hdigit, hpoint, hlower, hcapital, hplus, hminus, h, decide_false,
      Bool.false_and, Bool.or_self, Bool.false_eq_true, if_false, if_true]
    cases stack <;> rfl
  refine ⟨⟨fun b hb => ?_, by simp only [Machine.flush, h, if_true]⟩, fun b hb => ?_⟩
  · rcases hb with rfl | rfl | rfl <;> exact hnext _ rfl (by decide) (by decide) (by decide)
      (by decide) (by decide)
  · have hone : b = ascii ' ' ∨ b = ascii '\n' ∨ b = ascii '\t' ∨ b = ascii '\r' := by
      simpa [isBlankByte, or_assoc] using hb
    rw [← (rests_complete stack l.node).blank b hb]
    rcases hone with rfl | rfl | rfl | rfl <;> exact hnext _ rfl (by decide) (by decide) (by decide)
      (by decide) (by decide)

/-- The values of digits are kept with the last digit first. -/
theorem digitValues_cons (d : Digit) (ds : List Digit) :
    digitValues (d :: ds) = digitValues ds ++ [digitValue d.val] :=
  List.reverse_cons

/-- A digit inside a number. -/
theorem step_inside {l l' : NumberLiteral} {phase phase' : Phase} (stack : List Frame) (d : Digit)
    (h : ∀ b, digitOf b = digitValue d.val → l.addDigit phase b = some (l', phase')) :
    Machine.step ⟨.number l phase, stack⟩ (ascii d.val) = ⟨.number l' phase', stack⟩ := by
  obtain ⟨hlt, hc⟩ := eq_digitChar d.property
  obtain ⟨-, -, -, -, hdigit, -, hvalue⟩ := digit_byte _ hlt
  rw [← hc] at hdigit hvalue
  show Machine.onNumber l phase stack (ascii d.val) = _
  simp only [Machine.onNumber, hdigit, if_true, h _ hvalue]

/-- More digits inside a number, in a phase in which they are collected. -/
theorem feed_more (phase : Phase) (collected : List Nat → NumberLiteral)
    (h : ∀ ds b, (collected ds).addDigit phase b = some (collected (digitOf b :: ds), phase))
    (stack : List Frame) (done : List Nat) (ds : List Digit) :
    Machine.feed ⟨.number (collected done) phase, stack⟩ (digitBytes ds)
      = ⟨.number (collected (digitValues ds ++ done)) phase, stack⟩ := by
  induction ds generalizing done with
  | nil => rfl
  | cons d rest ih =>
    have hstep : Machine.step ⟨.number (collected done) phase, stack⟩ (ascii d.val)
        = ⟨.number (collected (digitValue d.val :: done)) phase, stack⟩ :=
      step_inside stack d fun b hb => hb ▸ h done b
    show Machine.feed (Machine.step _ (ascii d.val)) (digitBytes rest) = _
    rw [hstep, ih, digitValues, digitValues, List.map_cons, List.reverse_cons, List.append_assoc]
    rfl

/-- A number up to its point. -/
theorem feed_whole (n : Numeral) (place : Place) (stack : List Frame) :
    ∃ phase, (phase = .zero ∨ phase = .whole)
      ∧ Machine.feed ⟨.value place, stack⟩
          ((if n.negative then [ascii '-'] else []) ++ digitBytes (n.first :: n.more))
        = ⟨.number ⟨n.negative, digitValues (n.first :: n.more), none, false, none⟩ phase, stack⟩ := by
  -- The sign and the first digit, which decides the phase.
  have hfirst : Machine.feed ⟨.value place, stack⟩
      ((if n.negative then [ascii '-'] else []) ++ [ascii n.first.val])
      = ⟨.number ⟨n.negative, [digitValue n.first.val], none, false, none⟩
          (firstPhase (digitValue n.first.val)), stack⟩ := by
    cases n.negative with
    | false => exact step_digit place stack n.first.property
    | true =>
      have hsign : Machine.step ⟨.value place, stack⟩ (ascii '-')
          = ⟨.number .ofSign .minus, stack⟩ := by
        cases place <;> rfl
      show Machine.step (Machine.step ⟨.value place, stack⟩ (ascii '-')) (ascii n.first.val) = _
      rw [hsign]
      exact step_minus_digit stack n.first.property
  have hbytes : (if n.negative then [ascii '-'] else []) ++ digitBytes (n.first :: n.more)
      = ((if n.negative then [ascii '-'] else []) ++ [ascii n.first.val]) ++ digitBytes n.more := by
    rw [List.append_assoc]
    rfl
  rw [hbytes, Machine.feed_append, hfirst]
  -- No digit follows a leading zero.
  by_cases hzero : digitValue n.first.val = 0
  · rw [n.leading hzero]
    exact ⟨_, .inl (if_pos hzero), rfl⟩
  · refine ⟨.whole, .inr rfl, ?_⟩
    rw [firstPhase, if_neg hzero]
    have hmore := feed_more .whole (fun ws => ⟨n.negative, ws, none, false, none⟩) (fun _ _ => rfl)
      stack [digitValue n.first.val] n.more
    rwa [← digitValues_cons] at hmore

/-- A number up to its exponent. -/
theorem feed_fraction (n : Numeral) {phase : Phase} (h : phase = .zero ∨ phase = .whole)
    (whole : List Nat) (stack : List Frame) :
    ∃ phase', (phase' = .zero ∨ phase' = .whole ∨ phase' = .fraction)
      ∧ Machine.feed ⟨.number ⟨n.negative, whole, none, false, none⟩ phase, stack⟩
          (n.fraction.toList.flatMap fun f => ascii '.' :: digitBytes (f.1 :: f.2))
        = ⟨.number ⟨n.negative, whole, n.fraction.map fun f => digitValues (f.1 :: f.2), false, none⟩
            phase', stack⟩ := by
  cases n.fraction with
  | none => exact ⟨phase, h.imp_right .inl, rfl⟩
  | some f =>
    obtain ⟨first, more⟩ := f
    have hpoint : Machine.step ⟨.number ⟨n.negative, whole, none, false, none⟩ phase, stack⟩ (ascii '.')
        = ⟨.number ⟨n.negative, whole, some [], false, none⟩ .point, stack⟩ := by
      rcases h with rfl | rfl <;> rfl
    have hfirst : Machine.step ⟨.number ⟨n.negative, whole, some [], false, none⟩ .point, stack⟩
        (ascii first.val)
        = ⟨.number ⟨n.negative, whole, some [digitValue first.val], false, none⟩ .fraction, stack⟩ :=
      step_inside stack first fun b hb => hb ▸ rfl
    have hmore := feed_more .fraction (fun ds => ⟨n.negative, whole, some ds, false, none⟩)
      (fun _ _ => rfl) stack [digitValue first.val] more
    refine ⟨.fraction, .inr (.inr rfl), ?_⟩
    show Machine.feed _ ((ascii '.' :: ascii first.val :: digitBytes more) ++ []) = _
    rw [List.append_nil, Machine.feed_cons, hpoint, Machine.feed_cons, hfirst, hmore,
      ← digitValues_cons]
    rfl

/-- A number with its exponent. -/
theorem feed_exponent (n : Numeral) {phase : Phase}
    (h : phase = .zero ∨ phase = .whole ∨ phase = .fraction) (whole : List Nat)
    (fraction : Option (List Nat)) (stack : List Frame) :
    ∃ phase', phase'.isComplete = true
      ∧ Machine.feed ⟨.number ⟨n.negative, whole, fraction, false, none⟩ phase, stack⟩
          (n.exponent.toList.flatMap Exponent.bytes)
        = ⟨.number ⟨n.negative, whole, fraction, n.exponent.any fun e => e.minus = some true,
            n.exponent.map fun e => digitValues (e.first :: e.more)⟩ phase', stack⟩ := by
  cases n.exponent with
  | none =>
    refine ⟨phase, ?_, rfl⟩
    rcases h with rfl | rfl | rfl <;> rfl
  | some e =>
    obtain ⟨capital, minus, first, more⟩ := e
    have hmark : Machine.step ⟨.number ⟨n.negative, whole, fraction, false, none⟩ phase, stack⟩
        (if capital then ascii 'E' else ascii 'e')
        = ⟨.number ⟨n.negative, whole, fraction, false, some []⟩ .mark, stack⟩ := by
      rcases h with rfl | rfl | rfl <;> cases capital <;> rfl
    -- The first digit follows the mark or the sign.
    have hfirst : Machine.feed ⟨.number ⟨n.negative, whole, fraction, false, some []⟩ .mark, stack⟩
        ((minus.map fun minus => if minus then ascii '-' else ascii '+').toList ++ [ascii first.val])
        = ⟨.number ⟨n.negative, whole, fraction, decide (minus = some true), some [digitValue first.val]⟩
            .exponent, stack⟩ := by
      rcases minus with _ | _ | _ <;> exact step_inside stack first fun b hb => hb ▸ rfl
    have hmore := feed_more .exponent
      (fun ds => ⟨n.negative, whole, fraction, decide (minus = some true), some ds⟩) (fun _ _ => rfl)
      stack [digitValue first.val] more
    have hbytes : ([Exponent.mk capital minus first more].flatMap Exponent.bytes)
        = (if capital then ascii 'E' else ascii 'e')
          :: (((minus.map fun minus => if minus then ascii '-' else ascii '+').toList
            ++ [ascii first.val]) ++ digitBytes more) := by
      rw [List.append_assoc]
      simp [Exponent.bytes, digitBytes]
    refine ⟨.exponent, rfl, ?_⟩
    show Machine.feed _ ([Exponent.mk capital minus first more].flatMap Exponent.bytes) = _
    rw [hbytes, Machine.feed_cons, hmark, Machine.feed_append, hfirst, hmore, ← digitValues_cons]
    rfl

/-- **The machine after a number** has read it. -/
theorem rests_numeral (n : Numeral) (place : Place) (stack : List Frame) :
    Rests stack n.literal.node (Machine.feed ⟨.value place, stack⟩ n.bytes) := by
  obtain ⟨phase, hphase, hwhole⟩ := feed_whole n place stack
  obtain ⟨phase', hphase', hfraction⟩ := feed_fraction n hphase (digitValues (n.first :: n.more)) stack
  obtain ⟨phase'', hcomplete, hexponent⟩ := feed_exponent n hphase' (digitValues (n.first :: n.more))
    (n.fraction.map fun f => digitValues (f.1 :: f.2)) stack
  rw [Numeral.bytes, ← List.append_assoc, Machine.feed_append, hwhole, Machine.feed_append, hfraction,
    hexponent]
  exact rests_number n.literal hcomplete stack

/-! ### Values -/

/-- A value as it is spelled, with the blanks around its parts; `inner` are those of an empty list or
    object. -/
inductive Spelling where
  | null
  | bool (value : Bool)
  | number (numeral : Numeral)
  | text (quoted : Quoted)
  | array (inner : List Blank) (items : List (Spaced Spelling))
  | object (inner : List Blank) (members : List (Spaced Quoted × Spaced Spelling))

/-- A member of an object as it is spelled. -/
abbrev SpelledMember := Spaced Quoted × Spaced Spelling

mutual

/-- The bytes of a value. -/
def Spelling.bytes : Spelling → List UInt8
  | .null => asciiBytes "null"
  | .bool true => asciiBytes "true"
  | .bool false => asciiBytes "false"
  | .number n => n.bytes
  | .text q => Quoted.bytes q
  | .array inner items =>
    ascii '[' :: (if items.isEmpty then blankBytes inner else commaSeparated (Spelling.itemBytes items))
      ++ [ascii ']']
  | .object inner members =>
    ascii '\x7b' :: (if members.isEmpty then blankBytes inner
      else commaSeparated (Spelling.memberBytes members)) ++ [ascii '\x7d']

/-- The bytes of the items of a list. -/
def Spelling.itemBytes : List (Spaced Spelling) → List (List UInt8)
  | [] => []
  | ⟨before, v, after⟩ :: rest => spacedBytes before v.bytes after :: Spelling.itemBytes rest

/-- The bytes of the members of an object. -/
def Spelling.memberBytes : List SpelledMember → List (List UInt8)
  | [] => []
  | (name, ⟨before, v, after⟩) :: rest =>
    (spacedBytes name.before (Quoted.bytes name.content) name.after
      ++ ascii ':' :: spacedBytes before v.bytes after) :: Spelling.memberBytes rest

end

mutual

/-- The tree of a value. -/
def Spelling.node : Spelling → Node
  | .null => .null
  | .bool b => .bool b
  | .number n => n.literal.node
  | .text q => .text (Quoted.text q)
  | .array _ items => .array (Spelling.itemNodes items) none
  | .object _ members => .object (Spelling.memberNodes members) none

/-- The trees of the items of a list. -/
def Spelling.itemNodes : List (Spaced Spelling) → List Node
  | [] => []
  | ⟨_, v, _⟩ :: rest => v.node :: Spelling.itemNodes rest

/-- The trees of the members of an object. -/
def Spelling.memberNodes : List SpelledMember → List Member
  | [] => []
  | (name, ⟨_, v, _⟩) :: rest => (Quoted.text name.content, v.node) :: Spelling.memberNodes rest

end

/-- A name, from where a member is expected to where its value is. -/
theorem feed_spelledName (place : Place) (members : List Member) (key : Option Key)
    (stack : List Frame) (name : Spaced Quoted) (rest : List UInt8) :
    Machine.feed ⟨.key place, .object members key :: stack⟩
        (spacedBytes name.before (Quoted.bytes name.content) name.after ++ ascii ':' :: rest)
      = Machine.feed ⟨.value .alone, .object members (some (Quoted.text name.content)) :: stack⟩ rest := by
  have hquote : Machine.step ⟨.key place, .object members key :: stack⟩ (ascii '"')
      = ⟨.text true [] .none, .object members key :: stack⟩ := rfl
  rw [spacedBytes, List.append_assoc, Machine.feed_append, feed_blanks_key, List.append_assoc,
    Machine.feed_append, Quoted.bytes, List.cons_append, Machine.feed_cons, hquote, feed_quoted,
    if_pos rfl, Machine.feed_append, feed_blanks_colon]
  rfl

mutual

/-- **The machine after a spelled value** has read its tree. -/
theorem rests_spelling (v : Spelling) (place : Place) (stack : List Frame) :
    Rests stack v.node (Machine.feed ⟨.value place, stack⟩ v.bytes) := by
  -- Along the spelling: the items of a list and the members of an object are read one by one.
  match v with
  | .null => exact rests_complete stack .null
  | .bool true => exact rests_complete stack (.bool true)
  | .bool false => exact rests_complete stack (.bool false)
  | .number n => exact rests_numeral n place stack
  | .text q =>
    have hquote : Machine.step ⟨.value place, stack⟩ (ascii '"') = ⟨.text false [] .none, stack⟩ := rfl
    have htext : Machine.feed ⟨.value place, stack⟩ (Quoted.bytes q)
        = .complete stack (.text (Quoted.text q)) := by
      rw [Quoted.bytes, List.cons_append, Machine.feed_cons, hquote, feed_quoted]
      rfl
    show Rests stack (.text (Quoted.text q)) (Machine.feed ⟨.value place, stack⟩ (Quoted.bytes q))
    rw [htext]
    exact rests_complete stack _
  | .array inner items =>
    have hopen : Machine.feed ⟨.value place, stack⟩ (Spelling.array inner items).bytes
        = .complete stack (.array (Spelling.itemNodes items) none) := by
      cases items with
      | nil =>
        show Machine.feed ⟨.value .first, .array [] :: stack⟩ (blankBytes inner ++ [ascii ']']) = _
        rw [Machine.feed_append, feed_blanks_value]
        rfl
      | cons item more => exact feed_spelledItems (item :: more) (List.cons_ne_nil _ _) .first [] stack
    rw [hopen]
    exact rests_complete stack _
  | .object inner members =>
    have hopen : Machine.feed ⟨.value place, stack⟩ (Spelling.object inner members).bytes
        = .complete stack (.object (Spelling.memberNodes members) none) := by
      cases members with
      | nil =>
        show Machine.feed ⟨.key .first, .object [] none :: stack⟩ (blankBytes inner ++ [ascii '\x7d'])
          = _
        rw [Machine.feed_append, feed_blanks_key]
        rfl
      | cons member more =>
        exact feed_spelledMembers (member :: more) (List.cons_ne_nil _ _) .first [] stack
    rw [hopen]
    exact rests_complete stack _

/-- The items of a list, read from where an item is expected. -/
theorem feed_spelledItems (items : List (Spaced Spelling)) (nonempty : items ≠ []) (place : Place)
    (done : List Node) (stack : List Frame) :
    Machine.feed ⟨.value place, .array done :: stack⟩
        (commaSeparated (Spelling.itemBytes items) ++ [ascii ']'])
      = .complete stack (.array (done.reverse ++ Spelling.itemNodes items) none) := by
  match items, nonempty with
  | [⟨before, v, after⟩], _ =>
    have hv := (rests_spelling v place (.array done :: stack)).spaced before after
    show Machine.feed _ (spacedBytes before v.bytes after ++ [ascii ']'])
      = .complete stack (.array (done.reverse ++ [v.node]) none)
    rw [Machine.feed_append, Machine.feed_cons, hv.step _ (.inr (.inl rfl)), ← List.reverse_cons]
    rfl
  | ⟨before, v, after⟩ :: next :: rest, _ =>
    have hv := (rests_spelling v place (.array done :: stack)).spaced before after
    have hrest := feed_spelledItems (next :: rest) (List.cons_ne_nil _ _) .next (v.node :: done) stack
    show Machine.feed _ ((spacedBytes before v.bytes after
      ++ ascii ',' :: commaSeparated (Spelling.itemBytes (next :: rest))) ++ [ascii ']']) = _
    rw [List.append_assoc, Machine.feed_append, List.cons_append, Machine.feed_cons,
      hv.step _ (.inl rfl)]
    refine hrest.trans ?_
    rw [List.reverse_cons, List.append_assoc]
    rfl

/-- The members of an object, read from where a member is expected. -/
theorem feed_spelledMembers (members : List SpelledMember) (nonempty : members ≠ []) (place : Place)
    (done : List Member) (stack : List Frame) :
    Machine.feed ⟨.key place, .object done none :: stack⟩
        (commaSeparated (Spelling.memberBytes members) ++ [ascii '\x7d'])
      = .complete stack (.object (done.reverse ++ Spelling.memberNodes members) none) := by
  match members, nonempty with
  | [(name, ⟨before, v, after⟩)], _ =>
    have hv := (rests_spelling v .alone
      (.object done (some (Quoted.text name.content)) :: stack)).spaced before after
    show Machine.feed _ ((spacedBytes name.before (Quoted.bytes name.content) name.after
        ++ ascii ':' :: spacedBytes before v.bytes after) ++ [ascii '\x7d'])
      = .complete stack (.object (done.reverse ++ [(Quoted.text name.content, v.node)]) none)
    rw [List.append_assoc, List.cons_append, feed_spelledName, Machine.feed_append, Machine.feed_cons,
      hv.step _ (.inr (.inr rfl)), ← List.reverse_cons]
    rfl
  | (name, ⟨before, v, after⟩) :: next :: rest, _ =>
    have hv := (rests_spelling v .alone
      (.object done (some (Quoted.text name.content)) :: stack)).spaced before after
    have hrest := feed_spelledMembers (next :: rest) (List.cons_ne_nil _ _) .next
      ((Quoted.text name.content, v.node) :: done) stack
    show Machine.feed _ (((spacedBytes name.before (Quoted.bytes name.content) name.after
        ++ ascii ':' :: spacedBytes before v.bytes after)
      ++ ascii ',' :: commaSeparated (Spelling.memberBytes (next :: rest))) ++ [ascii '\x7d']) = _
    rw [List.append_assoc, List.append_assoc, List.cons_append, feed_spelledName, Machine.feed_append,
      List.cons_append, Machine.feed_cons, hv.step _ (.inl rfl)]
    refine hrest.trans ?_
    rw [List.reverse_cons, List.append_assoc]
    rfl

end

/-- A whole text: a value between blanks. -/
abbrev SpelledText := Spaced Spelling

def SpelledText.bytes (t : SpelledText) : List UInt8 :=
  spacedBytes t.before t.content.bytes t.after

/-- **Every text of the grammar is a document with its tree.** -/
theorem ofBytes_bytes (t : SpelledText) :
    Document.ofBytes (SpelledText.bytes t) = ⟨t.content.node, false⟩ := by
  have hrests := (rests_spelling t.content .alone []).spaced t.before t.after
  show (Machine.feed Machine.start _).flush.atEnd.document = _
  rw [Machine.start, SpelledText.bytes, hrests.flush]
  rfl

/-- A value of the grammar ends inside the text, so nothing is wrong with it for a reader that skips
    it. -/
theorem skipFault_node (v : Spelling) : v.node.skipFault = none := by
  cases v with
  | null | bool _ | text _ | array _ _ | object _ _ => rfl
  | number n => rfl

end Rebac.Json
