import Rebac.Store.Page

namespace Rebac.Store

/-!
# Walking page by page

A walk asks for a page, then for the page whose token came with it, until a page comes without a
token.

* `Walk` — the pages of a walk from a token on; `Walk.unique` says that there is at most one.
* `offset?_toString`, `eq_of_offset?_toString` — the token of a position that fits in 64 bits stands
  for that position, and no token for any other.
* `cut_eq` — a page is what stands at its position, up to its size.
* `Paged` — a list cut into pages of a size, of which only the last may be smaller.
* `walk_paged` — **a walk over a list ends**, and cuts it into pages; `walk_cut` says that these
  together are the list.
-/

variable {α β : Type}

/-! ### Walks -/

/-- A page that is asked for by its token: the items, and the token of the page after it. -/
abbrev Fetch (α : Type) := String → Except ServiceError (List α × String)

/-- The pages of a walk from a token on. -/
inductive Walk (fetch : Fetch α) : String → List (List α) → Prop where
  | last {token : String} {items : List α} (page : fetch token = .ok (items, "")) :
      Walk fetch token [items]
  | more {token next : String} {items : List α} {rest : List (List α)}
      (page : fetch token = .ok (items, next)) (goesOn : next ≠ "") (walk : Walk fetch next rest) :
      Walk fetch token (items :: rest)

/-- The pages of a walk are determined by its first token. -/
theorem Walk.unique {fetch : Fetch α} {token : String} {pages pages' : List (List α)}
    (h : Walk fetch token pages) (h' : Walk fetch token pages') : pages = pages' := by
  -- On the first walk: the answer to a token leaves the second no other way to go on.
  induction h generalizing pages' with
  | last page =>
    cases h' with
    | last page' => rw [page] at page'; cases page'; rfl
    | more page' goesOn' => rw [page] at page'; cases page'; exact absurd rfl goesOn'
  | more page goesOn _ ih =>
    cases h' with
    | last page' => rw [page] at page'; cases page'; exact absurd rfl goesOn
    | more page' _ walk' => rw [page] at page'; cases page'; rw [ih walk']

/-- Changing the items of every page changes the pages of a walk, and not its course. -/
theorem Walk.map {fetch : Fetch α} {token : String} {pages : List (List α)}
    (f : List α → List β) (h : Walk fetch token pages) :
    Walk (fun t => (fetch t).map fun page => (f page.1, page.2)) token (pages.map f) := by
  induction h with
  | last page => exact .last (by rw [page]; rfl)
  | more page goesOn _ ih => exact .more (by rw [page]; rfl) goesOn ih

/-! ### Tokens -/

/-- The empty token stands for the beginning. -/
theorem offset?_empty : offset? "" = some 0 := rfl

/-- A digit is read as its value. -/
theorem digit?_of_isDigit {c : Char} (h : c.isDigit) : digit? c = some (c.toNat - '0'.toNat) := by
  have hrange : ('0' ≤ c && c ≤ '9') = true := h
  rw [digit?, if_pos hrange]
  rfl

/-- Reading further digits makes a number no smaller. -/
theorem le_ofDigitChars (acc : Nat) (cs : List Char) : acc ≤ Nat.ofDigitChars 10 cs acc := by
  induction cs generalizing acc with
  | nil => exact Nat.le_refl acc
  | cons c rest ih =>
    rw [Nat.ofDigitChars_cons]
    have := ih (10 * acc + (c.toNat - '0'.toNat))
    omega

/-- Digits are read as the number that they denote, if it fits in 64 bits. -/
theorem digitsFrom?_eq {acc : Nat} {cs : List Char} (digits : ∀ c ∈ cs, c.isDigit)
    (fits : Nat.ofDigitChars 10 cs acc < 2 ^ 64) :
    digitsFrom? acc cs = some (Nat.ofDigitChars 10 cs acc) := by
  -- What the digits so far denote fits as well, since the number only grows.
  induction cs generalizing acc with
  | nil => rfl
  | cons c rest ih =>
    rw [Nat.ofDigitChars_cons, Nat.mul_comm] at fits ⊢
    have hsmall : acc * 10 + (c.toNat - '0'.toNat) < 2 ^ 64 :=
      Nat.lt_of_le_of_lt (le_ofDigitChars _ rest) fits
    have hc : c.isDigit := digits c (by simp)
    rw [digitsFrom?, digit?_of_isDigit hc]
    show (if acc * 10 + (c.toNat - '0'.toNat) < 2 ^ 64 then _ else none) = _
    rw [if_pos hsmall]
    exact ih (fun d hd => digits d (by simp [hd])) fits

/-- Where digits are read at all, they are read as the number that they denote. -/
theorem digitsFrom?_some {acc n : Nat} {cs : List Char} (digits : ∀ c ∈ cs, c.isDigit)
    (h : digitsFrom? acc cs = some n) : n = Nat.ofDigitChars 10 cs acc := by
  induction cs generalizing acc with
  | nil => exact (Option.some.inj h).symm
  | cons c rest ih =>
    have hc : c.isDigit := digits c (by simp)
    rw [digitsFrom?, digit?_of_isDigit hc] at h
    dsimp only at h
    split at h
    · rw [Nat.ofDigitChars_cons, Nat.mul_comm]
      exact ih (fun d hd => digits d (by simp [hd])) h
    · cases h

/-- Numbers are written in digits. -/
theorem isDigit_of_mem_toDigits {n : Nat} : ∀ c ∈ Nat.toDigits 10 n, c.isDigit :=
  fun _ hc => Nat.isDigit_of_mem_toDigits (by decide) (by decide) hc

/-- A position has a token of its own. -/
theorem toString_ne_empty (n : Nat) : toString n ≠ "" := by
  intro h
  have hlist := congrArg String.toList h
  rw [Nat.toString_eq_repr, Nat.toList_repr] at hlist
  exact Nat.toDigits_ne_nil hlist

/-- Digits without a sign are read from the first. -/
theorem decimal?_of_digits {cs : List Char} (some : cs ≠ []) (digits : ∀ c ∈ cs, c.isDigit) :
    decimal? cs = digitsFrom? 0 cs := by
  cases cs with
  | nil => exact absurd rfl some
  | cons c rest =>
    have hdigit : c.isDigit := digits c (by simp)
    -- A digit is no plus sign.
    have hplus : c ≠ '+' := by
      rintro rfl
      exact absurd hdigit (by decide)
    unfold decimal?
    split
    · next heq => exact absurd (List.cons.inj heq).1 hplus
    · next heq => exact absurd heq (List.cons_ne_nil c rest)
    · rfl

/-- The token of a position is read digit by digit. -/
theorem offset?_toString_eq (n : Nat) :
    offset? (toString n) = digitsFrom? 0 (Nat.toDigits 10 n) := by
  have hempty : (toString n).isEmpty = false := by
    rw [Bool.eq_false_iff, ne_eq, String.isEmpty_iff]
    exact toString_ne_empty n
  rw [offset?, hempty, if_neg Bool.false_ne_true, Nat.toString_eq_repr, Nat.toList_repr]
  exact decimal?_of_digits Nat.toDigits_ne_nil isDigit_of_mem_toDigits

/-- **A token stands for the position that it was made for**, as long as that fits in 64 bits. -/
theorem offset?_toString {n : Nat} (h : n < 2 ^ 64) : offset? (toString n) = some n := by
  have hvalue : Nat.ofDigitChars 10 (Nat.toDigits 10 n) 0 = n := Nat.ofDigitChars_ten_toDigits
  rw [offset?_toString_eq, digitsFrom?_eq isDigit_of_mem_toDigits (by rwa [hvalue]), hvalue]

/-- A token stands for no position but the one that it was made for. -/
theorem eq_of_offset?_toString {n k : Nat} (h : offset? (toString n) = some k) : k = n := by
  rw [offset?_toString_eq] at h
  rw [digitsFrom?_some isDigit_of_mem_toDigits h]
  exact Nat.ofDigitChars_ten_toDigits

/-! ### Pages of a list -/

/-- A page has room for one item at least. -/
theorem Page.limit_pos (p : Page) : 0 < p.limit := by
  unfold Page.limit
  split
  · decide
  · next h =>
    have : p.size.toNat ≠ 0 := fun h0 => h (UInt32.toNat_inj.mp h0)
    omega

/-- **A page is what stands at its position**, up to its size; its token leads to what comes next. -/
theorem cut_eq (p : Page) {start : Nat} (h : offset? p.token = some start) (items : List α) :
    p.cut items = .ok ((items.drop start).take p.limit,
      if start + p.limit < items.length then toString (start + p.limit) else "") := by
  -- Where a page would reach beyond the list, it ends with the list.
  have htake : items.take (min (start + p.limit) items.length) = items.take (start + p.limit) := by
    rw [← List.take_take, List.take_length]
  have hnext : (if min (start + p.limit) items.length < items.length
      then toString (min (start + p.limit) items.length) else "") =
      if start + p.limit < items.length then toString (start + p.limit) else "" := by
    by_cases hlt : start + p.limit < items.length
    · rw [Nat.min_eq_left (by omega)]
    · rw [Nat.min_eq_right (by omega), if_neg (by omega), if_neg hlt]
  unfold Page.cut
  rw [h]
  show Except.ok _ = _
  rw [htake, hnext, List.drop_take, Nat.add_sub_cancel_left]

/-- No page is larger than its size. -/
theorem length_cut_le {p : Page} {items found : List α} {next : String}
    (h : p.cut items = .ok (found, next)) : found.length ≤ p.limit := by
  unfold Page.cut at h
  split at h
  · cases h
  · cases h
    rw [List.length_drop, List.length_take]
    omega

/-- A list cut into pages: as many as it needs, but at least one, and all of them full except the
    last. -/
structure Paged (limit : Nat) (items : List α) (pages : List (List α)) : Prop where
  flatten : pages.flatten = items
  full : ∀ page ∈ pages.dropLast, page.length = limit
  length : pages.length = max 1 ((items.length + limit - 1) / limit)

namespace Paged

variable {limit : Nat} {items : List α}

/-- What fits on a page is a single page. -/
theorem single (positive : 0 < limit) (fits : items.length ≤ limit) : Paged limit items [items] := by
  refine ⟨List.flatten_singleton, ?_, ?_⟩
  · simp
  · have hpages : (items.length + limit - 1) / limit < 2 := by
      rw [Nat.div_lt_iff_lt_mul positive]
      omega
    rw [List.length_singleton]
    omega

/-- What does not fit on a page is a full page and the pages of the rest. -/
theorem cons {rest : List (List α)} (positive : 0 < limit) (more : limit < items.length)
    (h : Paged limit (items.drop limit) rest) : Paged limit items (items.take limit :: rest) := by
  have hne : rest ≠ [] := by
    intro hnil
    have hlength := h.length
    rw [hnil, List.length_nil] at hlength
    omega
  refine ⟨?_, ?_, ?_⟩
  · rw [List.flatten_cons, h.flatten, List.take_append_drop]
  · intro page hpage
    rw [List.dropLast_cons_of_ne_nil hne, List.mem_cons] at hpage
    rcases hpage with rfl | hpage
    · rw [List.length_take]
      omega
    · exact h.full page hpage
  · -- The rest needs a page less, and at least one.
    have hrest : 1 ≤ (items.length - limit + limit - 1) / limit := by
      rw [Nat.le_div_iff_mul_le positive]
      omega
    have hpages : (items.length + limit - 1) / limit
        = (items.length - limit + limit - 1) / limit + 1 := by
      rw [← Nat.add_div_right _ positive]
      congr 1
      omega
    rw [List.length_cons, h.length, List.length_drop, hpages]
    omega

end Paged

/-- **A walk over a list ends**, and cuts what stands from its position on into pages. The list is one
    whose positions fit in 64 bits. -/
theorem walk_paged {items : List α} (fits : items.length ≤ 2 ^ 64) (size : UInt32) {token : String}
    {start : Nat} (h : offset? token = some start) :
    ∃ pages, Walk (fun t => (Page.mk size t).cut items) token pages ∧
      Paged (Page.mk size token).limit (items.drop start) pages := by
  -- On the items left; a page takes at least one of them.
  induction hleft : items.length - start using Nat.strongRecOn generalizing token start with
  | ind left ih =>
    have hlimit := (Page.mk size token).limit_pos
    have hcut := cut_eq (Page.mk size token) h items
    by_cases hlt : start + (Page.mk size token).limit < items.length
    · rw [if_pos hlt] at hcut
      have hnext : offset? (toString (start + (Page.mk size token).limit)) =
          some (start + (Page.mk size token).limit) := offset?_toString (by omega)
      obtain ⟨pages, hwalk, hpaged⟩ := ih _ (by omega) hnext rfl
      rw [← List.drop_drop] at hpaged
      exact ⟨_ :: pages, .more hcut (toString_ne_empty _) hwalk,
        hpaged.cons hlimit (by rw [List.length_drop]; omega)⟩
    · rw [if_neg hlt] at hcut
      have hrest : (items.drop start).length ≤ (Page.mk size token).limit := by
        rw [List.length_drop]
        omega
      rw [List.take_of_length_le hrest] at hcut
      exact ⟨[_], .last hcut, .single hlimit hrest⟩

/-- **A walk over a list ends**, and its pages together are what stands from its position on. The
    list is one whose positions fit in 64 bits. -/
theorem walk_cut {items : List α} (fits : items.length ≤ 2 ^ 64) (size : UInt32) {token : String}
    {start : Nat} (h : offset? token = some start) :
    ∃ pages, Walk (fun t => (Page.mk size t).cut items) token pages ∧
      pages.flatten = items.drop start := by
  obtain ⟨pages, hwalk, hpaged⟩ := walk_paged fits size h
  exact ⟨pages, hwalk, hpaged.flatten⟩

/-- From the empty token on there is one walk, and it cuts the whole list into pages. -/
theorem walk_from_start {items : List α} (fits : items.length ≤ 2 ^ 64) (size : UInt32) :
    ∃ pages, Paged (Page.mk size "").limit items pages ∧
      ∀ pages', Walk (fun t => (Page.mk size t).cut items) "" pages' ↔ pages' = pages := by
  obtain ⟨pages, hwalk, hpaged⟩ := walk_paged fits size offset?_empty
  refine ⟨pages, hpaged, ?_⟩
  intro pages'
  constructor
  · intro hwalk'
    exact hwalk'.unique hwalk
  · rintro rfl
    exact hwalk

end Rebac.Store
