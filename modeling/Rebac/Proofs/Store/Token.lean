import Rebac.Proofs.Store.Paging

namespace Rebac.Store

/-!
# Tokens of any kind

A token comes back from a caller, who may have made it up. Whatever it is, a page is told from it or
it is refused; and since positions are kept in words of 64 bits, the sums and the slices on the way
are looked at as well.

* `Numeral` — a decimal numeral, perhaps with a plus sign, of a number that fits in 64 bits.
* `offset?_eq_some_iff` — the tokens that stand for a position, and the position.
* `Page.cutInWords`, `cutInWords_eq` — a page that is cut with words for positions is the page that is
  cut with numbers, also where a sum does not fit in a word or a position is beyond the list.
* `every_token_safe` — **a token is refused, or gives just the items from its position on**, up to the
  size of the page, with a token that leads on from there.
-/

variable {α : Type}

/-! ### Numerals -/

/-- A decimal numeral of a number that fits in 64 bits: one or more of the ten digits, and perhaps a
    plus sign before them. -/
def Numeral (token : String) (k : Nat) : Prop :=
  ∃ digits : List Char, (token.toList = digits ∨ token.toList = '+' :: digits) ∧ digits ≠ []
    ∧ (∀ c ∈ digits, c.isDigit) ∧ Nat.ofDigitChars 10 digits 0 = k ∧ k < 2 ^ 64

/-- Only digits are read as digits. -/
theorem isDigit_of_digit? {c : Char} {d : Nat} (h : digit? c = some d) : c.isDigit := by
  unfold digit? at h
  split at h
  · next hrange => exact hrange
  · cases h

/-- Only digits are read, and what they denote fits in 64 bits. -/
theorem digits_of_digitsFrom? {acc n : Nat} {cs : List Char} (small : acc < 2 ^ 64)
    (h : digitsFrom? acc cs = some n) : (∀ c ∈ cs, c.isDigit) ∧ n < 2 ^ 64 := by
  induction cs generalizing acc with
  | nil =>
    rw [digitsFrom?, Option.some.injEq] at h
    rw [← h]
    exact ⟨List.forall_mem_nil _, small⟩
  | cons c rest ih =>
    unfold digitsFrom? at h
    split at h
    · next d hd =>
      split at h
      · next hsmall =>
        obtain ⟨hrest, hn⟩ := ih hsmall h
        exact ⟨List.forall_mem_cons.mpr ⟨isDigit_of_digit? hd, hrest⟩, hn⟩
      · cases h
    · cases h

/-- A list of digits is read as its number, unless that needs more than 64 bits. -/
theorem digitsFrom?_eq_some_iff {n : Nat} {cs : List Char} :
    digitsFrom? 0 cs = some n
      ↔ (∀ c ∈ cs, c.isDigit) ∧ Nat.ofDigitChars 10 cs 0 = n ∧ n < 2 ^ 64 := by
  constructor
  · intro h
    obtain ⟨hdigits, hn⟩ := digits_of_digitsFrom? (by decide) h
    exact ⟨hdigits, (digitsFrom?_some hdigits h).symm, hn⟩
  · rintro ⟨hdigits, rfl, hfits⟩
    exact digitsFrom?_eq hdigits hfits

/-- A token is read as a number exactly if it is a numeral of it. -/
theorem decimal?_eq_some_iff {token : String} {k : Nat} :
    decimal? token.toList = some k ↔ Numeral token k := by
  constructor
  · intro h
    unfold decimal? at h
    split at h
    · next rest htoken =>
      split at h
      · cases h
      · next hrest =>
        rw [List.isEmpty_iff] at hrest
        exact ⟨rest, .inr htoken, hrest, digitsFrom?_eq_some_iff.mp h⟩
    · cases h
    · next hne => exact ⟨token.toList, .inl rfl, hne, digitsFrom?_eq_some_iff.mp h⟩
  · rintro ⟨digits, htoken, hne, hdigits⟩
    have hread : digitsFrom? 0 digits = some k := digitsFrom?_eq_some_iff.mpr hdigits
    rcases htoken with htoken | htoken
    · rw [htoken, decimal?_of_digits hne hdigits.1]
      exact hread
    · have hsome : digits.isEmpty = false := List.isEmpty_eq_false_iff.mpr hne
      rw [htoken, decimal?, hsome, if_neg Bool.false_ne_true]
      exact hread

/-- **The position of a token**: the beginning for the empty one, and the number of a numeral. No
    other token has a position. -/
theorem offset?_eq_some_iff {token : String} {k : Nat} :
    offset? token = some k ↔ token = "" ∧ k = 0 ∨ Numeral token k := by
  rw [offset?]
  split
  · next hempty =>
    rw [String.isEmpty_iff] at hempty
    subst hempty
    -- The empty token has no digits.
    have hnone : ¬Numeral "" k := by
      rintro ⟨digits, htoken | htoken, hne, -⟩
      · exact hne htoken.symm
      · cases htoken
    simp [hnone, eq_comm]
  · next hempty =>
    rw [String.isEmpty_iff] at hempty
    rw [decimal?_eq_some_iff]
    simp [hempty]

/-- Only such tokens have no position. -/
theorem offset?_eq_none_iff {token : String} :
    offset? token = none ↔ token ≠ "" ∧ ∀ k, ¬Numeral token k := by
  simp only [Option.eq_none_iff_forall_ne_some, ne_eq, offset?_eq_some_iff, not_or, not_and]
  constructor
  · intro h
    exact ⟨fun hempty => (h 0).1 hempty rfl, fun k => (h k).2⟩
  · rintro ⟨hempty, hnone⟩ k
    exact ⟨fun h => absurd h hempty, hnone k⟩

/-- The position of a token fits into 64 bits. -/
theorem offset?_lt {token : String} {k : Nat} (h : offset? token = some k) : k < 2 ^ 64 := by
  rcases offset?_eq_some_iff.mp h with ⟨-, rfl⟩ | ⟨_, _, _, _, _, hfits⟩
  · decide
  · exact hfits

/-! ### Positions in words -/

/-- The sum of two words, and the largest word where the sum does not fit. -/
def addSaturating (a b : UInt64) : UInt64 :=
  if a.toNat + b.toNat < 2 ^ 64 then a + b else 0xffffffffffffffff

/-- The items between two positions; `none` if they are in the wrong order, or beyond the list. -/
def slice? (items : List α) (start stop : UInt64) : Option (List α) :=
  if start ≤ stop ∧ stop.toNat ≤ items.length then
    some ((items.drop start.toNat).take (stop.toNat - start.toNat))
  else none

/-- A page of a list, with words for positions. -/
def Page.cutInWords (p : Page) (items : List α) : Except ServiceError (List α × String) :=
  match offset? p.token with
  | none => .error (.badToken p.token)
  | some k =>
    let start := UInt64.ofNat k
    let length := UInt64.ofNat items.length
    let stop := min (addSaturating start (.ofNat p.limit)) length
    .ok ((slice? items start stop).getD [], if stop < length then toString stop.toNat else "")

/-- The sum of two words stops at the largest word. -/
theorem toNat_addSaturating (a b : UInt64) :
    (addSaturating a b).toNat = min (a.toNat + b.toNat) (2 ^ 64 - 1) := by
  unfold addSaturating
  split
  · next hfits =>
    rw [UInt64.toNat_add, Nat.mod_eq_of_lt hfits]
    omega
  · next hlarge =>
    show 2 ^ 64 - 1 = _
    omega

/-- The smaller word is the smaller number. -/
theorem toNat_min (a b : UInt64) : (min a b).toNat = min a.toNat b.toNat := by
  show (if a ≤ b then a else b).toNat = _
  split
  · next hle =>
    have := UInt64.le_iff_toNat_le.mp hle
    omega
  · next hle =>
    have := mt UInt64.le_iff_toNat_le.mpr hle
    omega

/-- The size of a page fits into 64 bits. -/
theorem Page.limit_lt (p : Page) : p.limit < 2 ^ 64 := by
  unfold Page.limit
  split
  · decide
  · have := p.size.toNat_lt
    omega

/-- Where the positions are in the wrong order nothing stands between them. -/
theorem getD_slice? {items : List α} {start stop : UInt64} (within : stop.toNat ≤ items.length) :
    (slice? items start stop).getD [] = (items.take stop.toNat).drop start.toNat := by
  unfold slice?
  split
  · rw [Option.getD_some, List.drop_take]
  · next hrange =>
    have horder : ¬start.toNat ≤ stop.toNat := fun hle =>
      hrange ⟨UInt64.le_iff_toNat_le.mpr hle, within⟩
    rw [Option.getD_none, List.drop_eq_nil_of_le]
    rw [List.length_take]
    omega

/-- **Words are large enough for positions.** A sum that does not fit is beyond the list anyway. -/
theorem cutInWords_eq (p : Page) {items : List α} (fits : items.length < 2 ^ 64) :
    p.cutInWords items = p.cut items := by
  unfold Page.cutInWords Page.cut
  cases hk : offset? p.token with
  | none => rfl
  | some k =>
    have hstart : (UInt64.ofNat k).toNat = k := UInt64.toNat_ofNat_of_lt' (offset?_lt hk)
    have hlimit : (UInt64.ofNat p.limit).toNat = p.limit := UInt64.toNat_ofNat_of_lt' p.limit_lt
    have hlength : (UInt64.ofNat items.length).toNat = items.length :=
      UInt64.toNat_ofNat_of_lt' fits
    have hstop : (min (addSaturating (.ofNat k) (.ofNat p.limit)) (.ofNat items.length)).toNat
        = min (k + p.limit) items.length := by
      rw [toNat_min, toNat_addSaturating, hstart, hlimit, hlength]
      omega
    have hwithin := Nat.le_trans (Nat.le_of_eq hstop) (Nat.min_le_right _ items.length)
    simp only [getD_slice? hwithin, UInt64.lt_iff_toNat_lt, hstart, hstop, hlength]

/-! ### Every token -/

/-- A page is refused for its token, and for nothing else. -/
theorem cut_eq_error_iff {p : Page} {items : List α} {e : ServiceError} :
    p.cut items = .error e ↔ offset? p.token = none ∧ e = .badToken p.token := by
  unfold Page.cut
  split
  · next h => simp [h, eq_comm]
  · next h => simp [h]

/-- **Every token is safe.** A token is refused just if it is neither empty nor a numeral, as an invalid
    argument. Any other gives the items from its position on, up to the size of the page; the token of
    the next page is empty if the list ends there, and otherwise stands for the position where the page
    ends. Nothing of this changes if positions are words of 64 bits, in which sums may not fit; the
    length of a list in memory is itself such a word. -/
theorem every_token_safe (p : Page) (items : List α) (fits : items.length < 2 ^ 64) :
    let limit := if p.size = 0 then 100 else p.size.toNat
    (∀ e, p.cut items = .error e
      ↔ (p.token ≠ "" ∧ ∀ k, ¬Numeral p.token k) ∧ e = .badToken p.token)
    ∧ (ServiceError.badToken p.token).code = .invalidArgument
    ∧ (∀ k, p.token = "" ∧ k = 0 ∨ Numeral p.token k →
        ∃ next, p.cut items = .ok ((items.drop k).take limit, next)
          ∧ (next = "" ↔ items.length ≤ k + limit)
          ∧ (next ≠ "" → offset? next = some (k + limit)))
    ∧ p.cutInWords items = p.cut items := by
  intro limit
  refine ⟨?_, rfl, ?_, cutInWords_eq p fits⟩
  · intro e
    rw [cut_eq_error_iff, offset?_eq_none_iff]
  · intro k hk
    have hcut := cut_eq p (offset?_eq_some_iff.mpr hk) items
    by_cases hmore : k + p.limit < items.length
    · rw [if_pos hmore] at hcut
      refine ⟨_, hcut, ?_, fun _ => offset?_toString (by omega)⟩
      exact iff_of_false (toString_ne_empty _) (Nat.not_le.mpr hmore)
    · rw [if_neg hmore] at hcut
      exact ⟨_, hcut, iff_of_true rfl (Nat.not_lt.mp hmore), fun h => absurd rfl h⟩

/-- A token with a sign and a leading zero gives a page from the second item on, and one for the last
    position in 64 bits, to which no size can be added, gives nothing. -/
theorem every_token_safe_signed :
    let items := ["a", "b", "c", "d"]
    items.length < 2 ^ 64
      ∧ (∃ next, (Page.mk 2 "+01").cut items = .ok (["b", "c"], next) ∧ next ≠ ""
        ∧ offset? next = some 3)
      ∧ (Page.mk 2 "18446744073709551615").cut items = .ok ([], "")
      ∧ (Page.mk 2 "18446744073709551615").cutInWords items = .ok ([], "") := by
  intro items
  have hfits : items.length < 2 ^ 64 := by decide
  have hsigned : Numeral "+01" 1 :=
    ⟨['0', '1'], .inr rfl, by decide, by simp, rfl, by decide⟩
  have hlast : Numeral "18446744073709551615" 18446744073709551615 :=
    ⟨"18446744073709551615".toList, .inl rfl, by decide, by simp, rfl, by decide⟩
  obtain ⟨next, hpage, hend, hnext⟩ := (every_token_safe ⟨2, "+01"⟩ items hfits).2.2.1 1 (.inr hsigned)
  obtain ⟨-, -, hlarge, hwords⟩ := every_token_safe ⟨2, "18446744073709551615"⟩ items hfits
  obtain ⟨none, hbeyond, hnone, -⟩ := hlarge _ (.inr hlast)
  have hmore : next ≠ "" := mt hend.mp (by decide)
  have hover : none = "" := hnone.mpr (by decide)
  rw [hover] at hbeyond
  exact ⟨hfits, ⟨next, hpage, hmore, hnext hmore⟩, hbeyond, hwords.trans hbeyond⟩

end Rebac.Store
