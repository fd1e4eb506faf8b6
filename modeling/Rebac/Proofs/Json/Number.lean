import Rebac.Proofs.Json.Text

namespace Rebac.Json

/-!
# Written integers are read back

An integer is written in decimal and read digit by digit. Its end is only known from what follows, so
what is said of the machine is what it does next.

* `Complete` — a machine that has read a value, or will have when anything else follows.
* `digitsValue_reverse` — the digits that were read denote the number that was written.
* `complete_integer` — **a written integer is read as itself**, if it fits in 64 bits.
-/

/-! ### Machines that have read a value -/

/-- A byte that may follow a value inside a container. -/
def Follows (b : UInt8) : Prop :=
  b = ascii ',' ∨ b = ascii ']' ∨ b = ascii '\x7d'

/-- A machine that goes on, and ends, as one that has read the value. -/
structure Complete (stack : List Frame) (node : Node) (m : Machine) : Prop where
  step : ∀ b, Follows b → m.step b = (Machine.complete stack node).step b
  flush : m.flush = .complete stack node

/-- A machine that has read a value is complete. -/
theorem complete_complete (stack : List Frame) (node : Node) :
    Complete stack node (.complete stack node) := by
  refine ⟨fun _ _ => rfl, ?_⟩
  cases stack <;> rfl

/-- A number may end with its last digit. -/
theorem complete_number (l : NumberLiteral) {phase : Phase} (h : phase = .zero ∨ phase = .whole)
    (stack : List Frame) : Complete stack l.node ⟨.number l phase, stack⟩ := by
  refine ⟨?_, ?_⟩
  · rintro b (rfl | rfl | rfl) <;> rcases h with rfl | rfl <;> cases stack <;> rfl
  · rcases h with rfl | rfl <;> rfl

/-! ### Digits -/

/-- The value of a digit. -/
def digitValue (c : Char) : Nat :=
  c.toNat - '0'.toNat

/-- A digit is the digit of its value. -/
theorem eq_digitChar {c : Char} (h : c.isDigit = true) :
    digitValue c < 10 ∧ c = Nat.digitChar (digitValue c) := by
  have hall : ∀ n < 58, 48 ≤ n → n - 48 < 10 ∧ Char.ofNat n = Nat.digitChar (n - 48) := by decide
  have hrange : 48 ≤ c.toNat ∧ c.toNat < 58 := by
    simp only [Char.isDigit, Bool.and_eq_true, decide_eq_true_eq] at h
    exact ⟨h.1, Nat.lt_succ_of_le h.2⟩
  have hdigit := hall c.toNat hrange.2 hrange.1
  rwa [Char.ofNat_toNat] at hdigit

/-- What the machine sees of a digit. -/
theorem digit_byte : ∀ d < 10, isBlankByte (ascii (Nat.digitChar d)) = false
    ∧ ascii (Nat.digitChar d) ≠ ascii ']' ∧ ascii (Nat.digitChar d) ≠ ascii '"'
    ∧ ascii (Nat.digitChar d) ≠ ascii '-' ∧ isDigitByte (ascii (Nat.digitChar d)) = true
    ∧ (ascii (Nat.digitChar d) = ascii '0' ↔ d = 0) ∧ digitOf (ascii (Nat.digitChar d)) = d := by
  decide

/-- The phase after the first digit of a number: nothing follows a leading zero. -/
def firstPhase (d : Nat) : Phase :=
  if d = 0 then .zero else .whole

/-- A number starts with a digit. -/
theorem step_digit (place : Place) (stack : List Frame) {c : Char} (h : c.isDigit = true) :
    Machine.step ⟨.value place, stack⟩ (ascii c)
      = ⟨.number ⟨false, [digitValue c], none, false, none⟩ (firstPhase (digitValue c)), stack⟩ := by
  obtain ⟨hlt, hc⟩ := eq_digitChar h
  obtain ⟨hblank, hbracket, hquote, hminus, hdigit, hzero, hvalue⟩ := digit_byte _ hlt
  rw [← hc] at hblank hbracket hquote hminus hdigit hzero hvalue
  show Machine.onValue place stack (ascii c) = _
  simp only [Machine.onValue, Machine.begin, NumberLiteral.ofDigit, firstPhase, hblank, hbracket,
    hquote, hminus, hdigit, hzero, hvalue, decide_false, Bool.false_and, Bool.false_eq_true,
    if_false, if_true]

/-- A number goes on with a digit after its sign. -/
theorem step_minus_digit (stack : List Frame) {c : Char} (h : c.isDigit = true) :
    Machine.step ⟨.number .ofSign .minus, stack⟩ (ascii c)
      = ⟨.number ⟨true, [digitValue c], none, false, none⟩ (firstPhase (digitValue c)), stack⟩ := by
  obtain ⟨hlt, hc⟩ := eq_digitChar h
  obtain ⟨-, -, -, -, hdigit, -, hvalue⟩ := digit_byte _ hlt
  rw [← hc] at hdigit hvalue
  show Machine.onNumber .ofSign .minus stack (ascii c) = _
  simp only [Machine.onNumber, hdigit, if_true, NumberLiteral.addDigit, hvalue, firstPhase,
    NumberLiteral.ofSign]

/-- A number goes on with digits. -/
theorem feed_digits (l : NumberLiteral) (stack : List Frame) {cs : List Char}
    (digits : ∀ c ∈ cs, c.isDigit = true) :
    Machine.feed ⟨.number l .whole, stack⟩ (cs.map ascii)
      = ⟨.number { l with whole := (cs.map digitValue).reverse ++ l.whole } .whole, stack⟩ := by
  induction cs generalizing l with
  | nil => rfl
  | cons c rest ih =>
    obtain ⟨hlt, hc⟩ := eq_digitChar (digits c (by simp))
    obtain ⟨-, -, -, -, hdigit, -, hvalue⟩ := digit_byte _ hlt
    rw [← hc] at hdigit hvalue
    have hstep : Machine.step ⟨.number l .whole, stack⟩ (ascii c)
        = ⟨.number { l with whole := digitValue c :: l.whole } .whole, stack⟩ := by
      show Machine.onNumber l .whole stack (ascii c) = _
      simp only [Machine.onNumber, hdigit, if_true, NumberLiteral.addDigit, hvalue]
    rw [List.map_cons, Machine.feed_cons, hstep, ih _ fun d hd => digits d (by simp [hd]),
      List.map_cons, List.reverse_cons, List.append_assoc]
    rfl

/-- The digits that were read denote the number that was written. -/
theorem digitsValue_reverse (cs : List Char) (ws : List Nat) :
    digitsValue ((cs.map digitValue).reverse ++ ws) = Nat.ofDigitChars 10 cs (digitsValue ws) := by
  induction cs generalizing ws with
  | nil => rfl
  | cons c rest ih =>
    rw [List.map_cons, List.reverse_cons, List.append_assoc, ih, Nat.ofDigitChars_cons,
      Nat.mul_comm]
    rfl

/-- A positive number is not written with a leading zero. -/
theorem toDigits_head {n : Nat} (h : 0 < n) :
    ∃ c rest, Nat.toDigits 10 n = c :: rest ∧ digitValue c ≠ 0 := by
  induction n using Nat.strongRecOn with
  | ind n ih =>
    by_cases hsmall : n < 10
    · have hall : ∀ d < 10, 0 < d → digitValue (Nat.digitChar d) ≠ 0 := by decide
      exact ⟨_, [], Nat.toDigits_of_lt_base hsmall, hall n hsmall h⟩
    · obtain ⟨c, rest, hdigits, hc⟩ := ih (n / 10) (by omega) (by omega)
      refine ⟨c, rest ++ [(n % 10).digitChar], ?_, hc⟩
      rw [Nat.toDigits_of_base_le (by decide) (by omega), hdigits]
      rfl

/-- The digits of a number, read by a machine that takes the first of them, give a literal of the
    number. -/
theorem feed_toDigits {m : Machine} {negative : Bool} {stack : List Frame}
    (first : ∀ c : Char, c.isDigit = true → m.step (ascii c)
      = ⟨.number ⟨negative, [digitValue c], none, false, none⟩ (firstPhase (digitValue c)), stack⟩)
    (n : Nat) :
    ∃ whole phase, m.feed ((Nat.toDigits 10 n).map ascii)
        = ⟨.number ⟨negative, whole, none, false, none⟩ phase, stack⟩
      ∧ (phase = .zero ∨ phase = .whole) ∧ digitsValue whole = n := by
  have hdigits : ∀ c ∈ Nat.toDigits 10 n, c.isDigit = true :=
    fun c hc => Nat.isDigit_of_mem_toDigits (by decide) (by decide) hc
  rcases Nat.eq_zero_or_pos n with rfl | hpos
  · have hzero : m.feed ((Nat.toDigits 10 0).map ascii)
        = ⟨.number ⟨negative, [0], none, false, none⟩ .zero, stack⟩ := first '0' (by decide)
    exact ⟨[0], .zero, hzero, .inl rfl, rfl⟩
  · obtain ⟨c, rest, hn, hc⟩ := toDigits_head hpos
    rw [hn] at hdigits ⊢
    refine ⟨(rest.map digitValue).reverse ++ [digitValue c], .whole, ?_, .inr rfl, ?_⟩
    · rw [List.map_cons, Machine.feed_cons, first c (hdigits c (by simp)), firstPhase, if_neg hc,
        feed_digits _ _ fun d hd => hdigits d (by simp [hd])]
    · have hvalue : Nat.ofDigitChars 10 (c :: rest) 0 = n := by
        rw [← hn]
        exact Nat.ofDigitChars_ten_toDigits
      rw [digitsValue_reverse]
      rw [Nat.ofDigitChars_cons] at hvalue
      exact hvalue

/-! ### Integers -/

/-- An integer that fits in 64 bits, with or without a sign. -/
def Fits (i : Int) : Prop :=
  -2 ^ 63 ≤ i ∧ i < 2 ^ 64

/-- **A written integer is read as itself**, if it fits in 64 bits. -/
theorem complete_integer {i : Int} (fits : Fits i) (place : Place) (stack : List Frame) :
    Complete stack (.number (.ok (.int i)))
      (Machine.feed ⟨.value place, stack⟩ (asciiBytes (Number.int i).text)) := by
  -- A sign leads from the start to a phase of its own, so that the two kinds begin differently.
  cases i with
  | ofNat n =>
    obtain ⟨whole, phase, hfeed, hphase, hwhole⟩ :=
      feed_toDigits (fun c hc => step_digit place stack hc) n
    have htext : asciiBytes (Number.int (Int.ofNat n)).text = (Nat.toDigits 10 n).map ascii := by
      show (Nat.repr n).toList.map ascii = _
      rw [Nat.toList_repr]
    have hnode : (NumberLiteral.mk false whole none false none).node
        = .number (.ok (.int (Int.ofNat n))) := by
      -- Without a sign all of 64 bits may be used.
      have hlt : n < 2 ^ 64 := Int.ofNat_lt.mp fits.2
      simp [NumberLiteral.node, NumberLiteral.value, hwhole, hlt]
    rw [htext, hfeed, ← hnode]
    exact complete_number _ hphase stack
  | negSucc k =>
    obtain ⟨whole, phase, hfeed, hphase, hwhole⟩ :=
      feed_toDigits (fun c hc => step_minus_digit stack hc) (k + 1)
    have htext : asciiBytes (Number.int (Int.negSucc k)).text
        = ascii '-' :: (Nat.toDigits 10 (k + 1)).map ascii := by
      show ("-" ++ Nat.repr (k + 1)).toList.map ascii = _
      rw [String.toList_append, Nat.toList_repr]
      rfl
    have hsign : Machine.step ⟨.value place, stack⟩ (ascii '-')
        = ⟨.number .ofSign .minus, stack⟩ := by
      cases place <;> rfl
    have hnode : (NumberLiteral.mk true whole none false none).node
        = .number (.ok (.int (Int.negSucc k))) := by
      -- With a sign the bound is that of signed numbers.
      have hle : k + 1 ≤ 2 ^ 63 := by
        have := fits.1
        omega
      simp [NumberLiteral.node, NumberLiteral.value, hwhole, hle, Int.negSucc_eq]
    rw [htext, Machine.feed_cons, hsign, hfeed, ← hnode]
    exact complete_number _ hphase stack

end Rebac.Json
