import Rebac.Json.Reader
import Rebac.Json.Writer

namespace Rebac.Json

/-!
# Written strings are read back

A written string is cut into pieces again, one for each byte of the text, and the pieces are joined
to the text.

* `Machine.feed` — the machine after a list of bytes.
* `pieceOf` — the piece that a byte of a text becomes; `feed_escapeByte` says that it does.
* `piecesText_pieceOf` — **the pieces of a text are the text**.
* `feed_writeText` — the machine after a written string.
-/

/-! ### Bytes one after the other -/

/-- The machine after a list of bytes. -/
def Machine.feed (m : Machine) (bytes : List UInt8) : Machine :=
  bytes.foldl Machine.step m

@[simp] theorem Machine.feed_cons (m : Machine) (b : UInt8) (rest : List UInt8) :
    m.feed (b :: rest) = (m.step b).feed rest := rfl

@[simp] theorem Machine.feed_append (m : Machine) (a b : List UInt8) :
    m.feed (a ++ b) = (m.feed a).feed b := List.foldl_append

/-! ### Texts and their bytes -/

/-- The bytes of a text are read as the text. -/
theorem textOfBytes_bytesOfText (s : String) : textOfBytes (bytesOfText s) = .ok s := by
  have hbytes : (⟨(bytesOfText s).toArray⟩ : ByteArray) = s.toByteArray := rfl
  rw [textOfBytes, hbytes, String.fromUTF8?, dif_pos s.isValidUTF8]
  rfl

/-- The bytes of a text are those of its characters, one after the other. -/
theorem bytesOfText_ofList (cs : List Char) :
    bytesOfText (String.ofList cs) = cs.flatMap String.utf8EncodeChar := by
  simp [bytesOfText, List.utf8Encode]

/-- An ASCII character has a single byte. -/
theorem utf8EncodeChar_of_ascii {c : Char} (h : c.toNat < 128) :
    String.utf8EncodeChar c = [ascii c] := by
  have hsmall : c.val.toNat ≤ 127 := Nat.le_of_lt_succ h
  simp only [String.utf8EncodeChar, hsmall, if_pos]
  rfl

/-- A character beyond ASCII has no ASCII byte. -/
theorem le_of_mem_utf8EncodeChar {c : Char} (h : ¬c.toNat < 128) {b : UInt8}
    (hb : b ∈ String.utf8EncodeChar c) : 128 ≤ b.toNat := by
  have hlarge : ¬c.val.toNat ≤ 127 := fun hle => h (Nat.lt_succ_of_le hle)
  simp only [String.utf8EncodeChar, if_neg hlarge] at hb
  -- The bytes of two, three and four are the same but for their number.
  split at hb
  · simp only [List.mem_cons, List.not_mem_nil, or_false] at hb
    rcases hb with rfl | rfl <;> simp only [UInt8.toNat_ofNat'] <;> omega
  · split at hb
    · simp only [List.mem_cons, List.not_mem_nil, or_false] at hb
      rcases hb with rfl | rfl | rfl <;> simp only [UInt8.toNat_ofNat'] <;> omega
    · simp only [List.mem_cons, List.not_mem_nil, or_false] at hb
      rcases hb with rfl | rfl | rfl | rfl <;> simp only [UInt8.toNat_ofNat'] <;> omega

/-- An ASCII text has one byte for each of its characters. -/
theorem bytesOfText_of_ascii {s : String} (h : ∀ c ∈ s.toList, c.toNat < 128) :
    bytesOfText s = s.toList.map ascii := by
  rw [← String.ofList_toList (s := s), bytesOfText_ofList, String.toList_ofList]
  generalize s.toList = cs at h
  induction cs with
  | nil => rfl
  | cons c rest ih =>
    obtain ⟨hc, hrest⟩ := List.forall_mem_cons.mp h
    rw [List.flatMap_cons, utf8EncodeChar_of_ascii hc, ih hrest]
    rfl

/-- The byte of an ASCII character is its number. -/
theorem toNat_ascii {c : Char} (h : c.toNat < 128) : (ascii c).toNat = c.toNat := by
  show c.toNat % 2 ^ 8 = c.toNat
  omega

/-! ### Pieces of a written string -/

/-- A control character that is written by its number. -/
def isNumbered (b : UInt8) : Bool :=
  b < 0x20 && b ≠ 8 && b ≠ 9 && b ≠ 10 && b ≠ 12 && b ≠ 13

/-- The piece that a byte of a text becomes when it is written and read. -/
def pieceOf (b : UInt8) : Piece :=
  if isNumbered b then .unit b.toNat else .byte b

/-- The four digits of a control character denote it. -/
theorem hexNumber_hexDigit {b : UInt8} (h : b < 0x20) :
    hexNumber [hexDigit (b.toNat % 16), hexDigit (b.toNat / 16), ascii '0', ascii '0']
      = some b.toNat := by
  have hall : ∀ n < 32, hexNumber [hexDigit (n % 16), hexDigit (n / 16), ascii '0', ascii '0']
      = some n := by decide
  exact hall b.toNat (UInt8.lt_iff_toNat_lt.mp h)

/-- The last digit of an escaped number completes it. -/
theorem onText_hex {isKey : Bool} {pieces : List Piece} {stack : List Frame} {digits : List UInt8}
    {b : UInt8} {u : Nat} (full : ¬ digits.length < 3) (h : hexNumber (b :: digits) = some u) :
    Machine.onText isKey pieces (.hex digits) stack b
      = ⟨.text isKey (.unit u :: pieces) .none, stack⟩ := by
  simp only [Machine.onText, if_neg full, h]

/-- What is written for a byte is read as its piece. -/
theorem feed_escapeByte (isKey : Bool) (pieces : List Piece) (stack : List Frame) (b : UInt8) :
    Machine.feed ⟨.text isKey pieces .none, stack⟩ (escapeByte b)
      = ⟨.text isKey (pieceOf b :: pieces) .none, stack⟩ := by
  unfold escapeByte
  split
  · next h => subst h; rfl
  · next hquote =>
    split
    · next h => subst h; rfl
    · next hbackslash =>
      iterate 5
        split
        · next h => subst h; rfl
      next h8 h12 h10 h13 h9 =>
      split
      · next hcontrol =>
        have hpiece : pieceOf b = .unit b.toNat := by
          simp [pieceOf, isNumbered, hcontrol, h8, h9, h10, h12, h13]
        have hread := hexNumber_hexDigit hcontrol
        rw [hpiece]
        have hfull : ¬ [hexDigit (b.toNat / 16), ascii '0', ascii '0'].length < 3 := Nat.lt_irrefl 3
        exact onText_hex hfull hread
      · next hplain =>
        have hpiece : pieceOf b = .byte b := by simp [pieceOf, isNumbered, hplain]
        show Machine.onText isKey pieces .none stack b = _
        rw [hpiece, Machine.onText, if_neg hquote, if_neg hbackslash, if_neg hplain]

/-- What is written for a list of bytes is read as their pieces. -/
theorem feed_escaped (isKey : Bool) (pieces : List Piece) (stack : List Frame) (bytes : List UInt8) :
    Machine.feed ⟨.text isKey pieces .none, stack⟩ (bytes.flatMap escapeByte)
      = ⟨.text isKey ((bytes.map pieceOf).reverse ++ pieces) .none, stack⟩ := by
  induction bytes generalizing pieces with
  | nil => rfl
  | cons b rest ih =>
    rw [List.flatMap_cons, Machine.feed_append, feed_escapeByte, ih, List.map_cons,
      List.reverse_cons, List.append_assoc]
    rfl

/-! ### Joining the pieces -/

/-- A code unit that is no half of a pair stands for itself. -/
theorem decodePieces_unit {u : Nat} (h : isLeading u = false) (h' : isTrailing u = false)
    (done : List UInt8) (rest : List Piece) :
    decodePieces none done (.unit u :: rest)
      = decodePieces none ((codePointBytes u).reverse ++ done) rest := by
  cases rest with
  | nil => simp [decodePieces, h, h']
  | cons piece rest => cases piece <;> simp [decodePieces, h, h']

/-- The piece of a byte stands for the byte. -/
theorem decodePieces_pieceOf (b : UInt8) (done : List UInt8) (rest : List Piece) :
    decodePieces none done (pieceOf b :: rest) = decodePieces none (b :: done) rest := by
  unfold pieceOf
  split
  · next h =>
    have hcontrol : b < 0x20 := by
      simp only [isNumbered, Bool.and_eq_true, decide_eq_true_eq] at h
      exact h.1.1.1.1.1
    have hsmall : b.toNat < 32 := UInt8.lt_iff_toNat_lt.mp hcontrol
    have hall : ∀ n < 32, codePointBytes n = [UInt8.ofNat n] ∧ isLeading n = false
        ∧ isTrailing n = false := by decide
    obtain ⟨hbytes, hleading, htrailing⟩ := hall b.toNat hsmall
    rw [decodePieces_unit hleading htrailing, hbytes, UInt8.ofNat_toNat]
    rfl
  · rw [decodePieces]

/-- Bytes that come without escapes are decoded to themselves. -/
theorem decodePieces_map (bytes done : List UInt8) :
    decodePieces none done (bytes.map pieceOf) = .ok (done.reverse ++ bytes) := by
  induction bytes generalizing done with
  | nil => simp [decodePieces]
  | cons b rest ih => rw [List.map_cons, decodePieces_pieceOf, ih]; simp

/-- **The pieces of a text are the text.** -/
theorem piecesText_pieceOf (s : String) : piecesText ((bytesOfText s).map pieceOf) = .ok s := by
  unfold piecesText
  rw [decodePieces_map]
  exact textOfBytes_bytesOfText s

/-- **The machine after a written string** has read the text. -/
theorem feed_writeText (isKey : Bool) (stack : List Frame) (s : String) :
    Machine.feed ⟨.text isKey [] .none, stack⟩ ((bytesOfText s).flatMap escapeByte ++ [ascii '"'])
      = if isKey then ⟨.colon, Machine.named stack (.ok s)⟩
        else .complete stack (.text (.ok s)) := by
  rw [Machine.feed_append, feed_escaped, List.append_nil]
  show Machine.endText isKey ((bytesOfText s).map pieceOf).reverse stack = _
  rw [Machine.endText, List.reverse_reverse, piecesText_pieceOf]

end Rebac.Json
