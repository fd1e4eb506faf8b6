import Mathlib.Logic.Function.Basic
import Rebac.Config.Reading
import Rebac.Proofs.Config.Tree
import Rebac.Proofs.Record.Reading
import Rebac.Proofs.Steps

namespace Rebac

/-!
# Settings one by one

What a single setting has after a tree was read, however deep it stands in the record.

* `Setting` — a field with a value of its own, in a record or in one of its sections; `Setting.get` is
  its value, `Setting.given?` what a tree gives for it.
* `Reads` — the fields of a record are those that a tree gives, or the defaults;
  `reads_of_readGroup` says that **this is what a reader does**.
* `valued_of_reads` — each setting has what the tree gives for it, or its default.
* `Setting.Replaced` — a section of one tree takes the place of a section of another;
  `valued_of_merge` — **what a setting has after one tree was laid over another**.
-/

/-- A field that has a value of its own: a single one or a list, no record. -/
def Record.Shape.isSingle : Record.Shape → Bool
  | .one .. | .many .. => true
  | .maybe .. | .each .. | .group .. => false

namespace Config

open Rebac.Record

/-- A field with a value of its own, in a record or in one of its sections. -/
inductive Setting : Fields → Shape → Type
  | here (name : String) {sh : Shape} {rest : Fields} (single : sh.isSingle) :
    Setting (.cons name sh rest) sh
  | there {name : String} {first : Shape} {rest : Fields} {sh : Shape} (k : Setting rest sh) :
    Setting (.cons name first rest) sh
  | inside (name : String) {title : String} {fs rest : Fields} {sh : Shape} (k : Setting fs sh) :
    Setting (.cons name (.group title fs) rest) sh

/-! ### What a tree gives -/

namespace Tree

/-- What stands under a name, or at the first place of a list. -/
def member? (name : String) : Tree → Option Tree
  | table _ entries => find? name entries
  | list _ (t :: _) => some t
  | list _ [] | leaf _ _ => none

/-- What is left for the other fields of a record: all names, or the other places of a list. -/
def others : Tree → Tree
  | list source (_ :: rest) => list source rest
  | t => t

/-- A table, where each name stands for itself. -/
def IsTable : Tree → Prop
  | table _ _ => True
  | list _ _ | leaf _ _ => False

instance : (t : Tree) → Decidable t.IsTable
  | table _ _ => isTrue trivial
  | list _ _ | leaf _ _ => isFalse not_false

variable {t under : Tree} {name : String}

/-- What an orderly tree has under a name is orderly. -/
theorem Orderly.member? (h : t.Orderly) {u : Tree} (hu : t.member? name = some u) : u.Orderly := by
  cases t with
  | table source entries => exact entriesOrderly_iff.mp h.2 _ (mem_of_find? hu)
  | list source items =>
    cases items with
    | nil => cases hu
    | cons first rest => cases hu; exact h.1
  | leaf source value => cases hu

/-- What an orderly tree has left for the other fields is orderly. -/
theorem Orderly.others (h : t.Orderly) : t.others.Orderly := by
  cases t with
  | table source entries => exact h
  | list source items =>
    cases items with
    | nil => exact h
    | cons first rest => exact h.2
  | leaf source value => exact h

/-- What is left for the other fields is a table exactly if the tree is one. -/
theorem isTable_others_iff : t.others.IsTable ↔ t.IsTable := by
  cases t with
  | table source entries => exact Iff.rfl
  | list source items => cases items <;> exact Iff.rfl
  | leaf source value => exact Iff.rfl

/-- A table is left whole for the other fields. -/
theorem others_of_isTable (h : t.IsTable) : t.others = t := by
  cases t with
  | table source entries => rfl
  | list source items => exact h.elim
  | leaf source value => exact h.elim

end Tree

namespace Setting

variable {fs : Fields} {sh : Shape}

/-- The names under which a setting stands. -/
def path : {fs : Fields} → {sh : Shape} → Setting fs sh → List String
  | _, _, here name _ => [name]
  | _, _, there k => k.path
  | _, _, inside name k => name :: k.path

/-- The value of a setting in a record. -/
def get : {fs : Fields} → {sh : Shape} → Setting fs sh → fs.Carrier → sh.Carrier
  | _, _, here _ _, c => c.1
  | _, _, there k, c => k.get c.2
  | _, _, inside _ k, c => k.get c.1

/-- What a tree gives for a setting. -/
def given? : {fs : Fields} → {sh : Shape} → Setting fs sh → Tree → Option Tree
  | _, _, here name _, t => t.member? name
  | _, _, there k, t => k.given? t.others
  | _, _, inside name k, t => (t.member? name).bind k.given?

/-- Where a setting leads there are no more fields. -/
theorem single (k : Setting fs sh) : sh.isSingle = true := by
  induction k with
  | here name single => exact single
  | there k ih => exact ih
  | inside name k ih => exact ih

/-- A setting of a record of defaults has its own default. -/
theorem get_default (k : Setting fs sh) : k.get fs.default = sh.default := by
  induction k with
  | here name single => rfl
  | there k ih => exact ih
  | inside name k ih => exact ih

end Setting

/-! ### What a reader does -/

/-- A value is the one of a tree, or the default if there is none. -/
def Valued (sh : Shape) (given : Option Tree) (value : sh.Carrier) : Prop :=
  match given with
  | some t => readShape sh t = .ok value
  | none => value = sh.default

/-- What is read from a tree is read from another one as well. -/
def ReadAs (sh : Shape) (t other : Tree) : Prop :=
  ∀ value, readShape sh t = .ok value → readShape sh other = .ok value

/-- The fields of a record are those that a tree gives, or the defaults. -/
def Reads : (fs : Fields) → Tree → fs.Carrier → Prop
  | .nil, _, _ => True
  | .cons name sh rest, t, c => Valued sh (t.member? name) c.1 ∧ Reads rest t.others c.2

/-- What is read from a list gives each field the item at its position. -/
theorem reads_of_readListed (source : Source) : (fs : Fields) → (position : Nat) → (ts : List Tree) →
    (c : fs.Carrier) → readListed fs position ts = .ok c → Reads fs (.list source ts) c
  | .nil, _, _, _, _ => trivial
  | .cons name sh rest, position, [], c, h => by
    rw [readListed] at h
    obtain ⟨more, hmore, h⟩ := bind_eq_ok_iff.mp h
    cases h
    exact ⟨rfl, reads_of_readListed source rest _ [] more hmore⟩
  | .cons name sh rest, position, t :: ts, c, h => by
    rw [readListed] at h
    obtain ⟨value, hvalue, h⟩ := bind_eq_ok_iff.mp h
    obtain ⟨more, hmore, h⟩ := bind_eq_ok_iff.mp h
    cases h
    exact ⟨mapError_eq_ok_iff.mp hvalue, reads_of_readListed source rest _ ts more hmore⟩

/-- The slots of a record hold what was looked up under the names of its fields. -/
def Filled : (fs : Fields) → (String → Option Tree) → fs.Slots → Prop
  | .nil, _, _ => True
  | .cons name sh rest, look, slots =>
    (match look name with
      | some t => ∃ value, readShape sh t = .ok value ∧ slots.1 = some value
      | none => slots.1 = none)
    ∧ Filled rest look slots.2

/-- Before anything is looked up nothing is filled in. -/
theorem filled_vacant (fs : Fields) : Filled fs (fun _ => none) fs.vacant := by
  induction fs using Fields.induct with
  | nil => trivial
  | cons name sh rest ih => exact ⟨rfl, ih⟩

/-- What is filled in depends on the look-up of the names of the fields only. -/
theorem Filled.congr {fs : Fields} {look look' : String → Option Tree} {slots : fs.Slots}
    (h : Filled fs look slots) (hsame : ∀ n ∈ fs.names, look' n = look n) : Filled fs look' slots := by
  induction fs using Fields.induct with
  | nil => trivial
  | cons name sh rest ih =>
    refine ⟨?_, ih h.2 fun n hn => hsame n (List.mem_cons_of_mem _ hn)⟩
    rw [hsame name List.mem_cons_self]
    exact h.1

/-- What is read for a name is put into the slot of its field, and into no other. -/
theorem Filled.put {fs : Fields} {look : String → Option Tree} {slots slots' : fs.Slots}
    {name : String} {t : Tree} (hreadable : fs.Readable) (h : Filled fs look slots)
    (hput : putNamed fs name t slots = .ok slots') :
    Filled fs (Function.update look name (some t)) slots' := by
  induction fs using Fields.induct with
  | nil => trivial
  | cons field sh rest ih =>
    obtain ⟨hnew, -, hrest⟩ := hreadable
    rw [putNamed] at hput
    split at hput
    · next heq =>
      obtain ⟨value, hvalue, hput⟩ := bind_eq_ok_iff.mp hput
      cases hput
      -- No later field has the name, so the other slots are as they were.
      refine ⟨?_, h.2.congr fun n hn => Function.update_of_ne (fun hname => hnew ?_) _ _⟩
      · rw [heq, Function.update_self]
        exact ⟨value, mapError_eq_ok_iff.mp hvalue, rfl⟩
      · rw [← heq, ← hname]
        exact hn
    · next hne =>
      obtain ⟨more, hmore, hput⟩ := bind_eq_ok_iff.mp hput
      cases hput
      refine ⟨?_, ih hrest h.2 hmore⟩
      rw [Function.update_of_ne (Ne.symm hne)]
      exact h.1

/-- The slots after a table was read hold what stands in it. -/
theorem Filled.readNamed {fs : Fields} (hreadable : fs.Readable) {entries : List (String × Tree)}
    {look : String → Option Tree} {slots slots' : fs.Slots} (hentries : Tree.Ascending entries)
    (h : Filled fs look slots) (hread : Config.readNamed (putNamed fs) entries slots = .ok slots') :
    Filled fs (fun n => (Tree.find? n entries).or (look n)) slots' := by
  induction entries generalizing look slots with
  | nil =>
    cases hread
    exact h
  | cons e rest ih =>
    rw [Config.readNamed] at hread
    obtain ⟨more, hmore, hread⟩ := bind_eq_ok_iff.mp hread
    have hrest := ih (List.pairwise_cons.mp hentries).2 (h.put hreadable hmore) hread
    refine hrest.congr fun n _ => ?_
    rw [Tree.find?]
    by_cases hname : e.1 = n
    · -- The name stands once in the table.
      have honce : Tree.find? n rest = none := hname ▸ Tree.find?_of_ascending_cons hentries
      rw [if_pos hname, honce, ← hname, Function.update_self]
      rfl
    · rw [if_neg hname, Function.update_of_ne (Ne.symm hname)]

/-- Slots that hold what stands in a table make a record of its entries. -/
theorem Filled.reads {source : Source} {entries : List (String × Tree)} {fs : Fields}
    {slots : fs.Slots} (h : Filled fs (fun n => Tree.find? n entries) slots) :
    Reads fs (.table source entries) (fs.filled slots) := by
  induction fs using Fields.induct with
  | nil => trivial
  | cons name sh rest ih =>
    refine ⟨?_, ih h.2⟩
    have hslot := h.1
    dsimp only at hslot
    show Valued sh (Tree.find? name entries) (slots.1.getD sh.default)
    cases hfind : Tree.find? name entries with
    | none =>
      rw [hfind] at hslot
      rw [hslot]
      rfl
    | some t =>
      rw [hfind] at hslot
      obtain ⟨value, hvalue, hslot⟩ := hslot
      rw [hslot]
      exact hvalue

/-- **A reader takes what a tree gives, and the defaults for the rest.** -/
theorem reads_of_readGroup {title : String} {fs : Fields} {t : Tree} {c : fs.Carrier}
    (hreadable : fs.Readable) (horderly : t.Orderly)
    (h : readGroup title fs (putNamed fs) (readListed fs 0) t = .ok c) : Reads fs t c := by
  cases t with
  | leaf source value => cases h
  | list source items => exact reads_of_readListed source fs 0 items c h
  | table source entries =>
    rw [readGroup] at h
    obtain ⟨slots, hslots, h⟩ := bind_eq_ok_iff.mp h
    cases h
    have hfilled := (filled_vacant fs).readNamed hreadable horderly.1 hslots
    exact (hfilled.congr fun n _ => (Option.or_none).symm).reads

/-- **Each setting has what the tree gives for it, or its default.** -/
theorem valued_of_reads {fs : Fields} {sh : Shape} (k : Setting fs sh) {t : Tree} {c : fs.Carrier}
    (hreadable : fs.Readable) (horderly : t.Orderly) (h : Reads fs t c) :
    Valued sh (k.given? t) (k.get c) := by
  induction k generalizing t with
  | here name single => exact h.1
  | there k ih => exact ih hreadable.2.2 horderly.others h.2
  | inside name k ih =>
    show Valued _ ((t.member? name).bind k.given?) (k.get c.1)
    have hsection := h.1
    cases hmember : t.member? name with
    | none =>
      rw [hmember] at hsection
      have hdefault : c.1 = Fields.default _ := hsection
      rw [hdefault]
      exact k.get_default
    | some u =>
      rw [hmember] at hsection
      have hread : readShape (.group _ _) u = .ok c.1 := hsection
      rw [readShape] at hread
      have hu := horderly.member? hmember
      exact ih hreadable.2.1 hu (reads_of_readGroup hreadable.2.1 hu hread)

/-! ### One tree over another -/

namespace Tree

variable {t under : Tree} {name : String}

/-- A table is merged with a table only. -/
theorem merge_of_not (h : ¬ (under.IsTable ∧ t.IsTable)) : under.merge t = t := by
  cases t with
  | leaf source value => rw [merge]
  | list source items => rw [merge]
  | table source entries =>
    cases under with
    | leaf s value => rfl
    | list s items => rfl
    | table s base => exact absurd ⟨trivial, trivial⟩ h

/-- A tree that is laid over another decides whether the result is a table. -/
theorem isTable_merge_iff : (under.merge t).IsTable ↔ t.IsTable := by
  by_cases h : under.IsTable ∧ t.IsTable
  · cases t with
    | table source entries =>
      cases under with
      | table s base => rw [merge]; exact Iff.rfl
      | leaf s value => exact h.1.elim
      | list s items => exact h.1.elim
    | leaf source value => exact h.2.elim
    | list source items => exact h.2.elim
  · rw [merge_of_not h]

/-- **The members of two tables that are laid over each other are laid over each other.** -/
theorem member?_merge (horderly : t.Orderly) (hunder : under.IsTable) (ht : t.IsTable) :
    (under.merge t).member? name = layered (under.member? name) (t.member? name) := by
  cases t with
  | table source entries =>
    cases under with
    | table s base => rw [merge]; exact find?_mergeEntries horderly.1
    | leaf s value => exact hunder.elim
    | list s items => exact hunder.elim
  | leaf source value => exact ht.elim
  | list source items => exact ht.elim

/-- A field with a value of its own is not read from a table. -/
theorem not_isTable_of_read {sh : Shape} {value : sh.Carrier} (hsingle : sh.isSingle = true)
    (h : readShape sh t = .ok value) : ¬ t.IsTable := by
  cases t with
  | leaf source given => exact not_false
  | list source items => exact not_false
  | table source entries =>
    cases sh with
    | one s default =>
      rw [readShape] at h
      cases s with
      | text => cases h
      | flag => cases h
      | integer w => cases h
      | choice e => cases h
      | keyword first others =>
        cases entries with
        | nil => cases h
        | cons e rest =>
          -- A table with the word as its name is refused for what stands there.
          obtain ⟨i, -, hinner⟩ := bind_eq_ok_iff.mp h
          cases mapError_eq_ok_iff.mp hinner
    | many s default =>
      rw [readShape] at h
      cases h
    | maybe title fs => cases hsingle
    | each title fs => cases hsingle
    | group title fs => cases hsingle

/-- What a field with a value of its own is read from takes the place of what was there. -/
theorem merge_of_read {sh : Shape} {value : sh.Carrier} (hsingle : sh.isSingle = true)
    (h : readShape sh (under.merge t) = .ok value) : under.merge t = t :=
  merge_of_not fun htables => not_isTable_of_read hsingle h (isTable_merge_iff.mpr htables.2)

end Tree

namespace Setting

variable {fs : Fields} {sh : Shape} {under t : Tree}

/-- A section of one tree takes the place of a section of another, since they are not both tables. -/
def Replaced : {fs : Fields} → {sh : Shape} → Setting fs sh → Tree → Tree → Prop
  | _, _, here _ _, under, t => ¬ (under.IsTable ∧ t.IsTable)
  | _, _, there k, under, t => k.Replaced under.others t.others
  | _, _, inside name k, under, t => ¬ (under.IsTable ∧ t.IsTable)
    ∨ ∃ u v, under.member? name = some u ∧ t.member? name = some v ∧ k.Replaced u v

/-- Two records of which one is no table are not merged anywhere. -/
theorem replaced_of_not (k : Setting fs sh) (h : ¬ (under.IsTable ∧ t.IsTable)) :
    k.Replaced under t := by
  induction k generalizing under t with
  | here name single => exact h
  | there k ih =>
    refine ih ?_
    rw [Tree.isTable_others_iff, Tree.isTable_others_iff]
    exact h
  | inside name k ih => exact .inl h

/-- If a section is replaced then what was there is gone. -/
theorem given?_merge_of_replaced (k : Setting fs sh) (horderly : t.Orderly)
    (h : k.Replaced under t) : k.given? (under.merge t) = k.given? t := by
  induction k generalizing under t with
  | here name single => rw [Tree.merge_of_not h]
  | there k ih =>
    by_cases htables : under.IsTable ∧ t.IsTable
    · have hmerged : (under.merge t).IsTable := Tree.isTable_merge_iff.mpr htables.2
      rw [Replaced, Tree.others_of_isTable htables.1, Tree.others_of_isTable htables.2] at h
      rw [given?, given?, Tree.others_of_isTable hmerged, Tree.others_of_isTable htables.2]
      exact ih horderly h
    · rw [Tree.merge_of_not htables]
  | inside name k ih =>
    by_cases htables : under.IsTable ∧ t.IsTable
    · obtain ⟨u, v, hu, hv, hreplaced⟩ := h.resolve_left (not_not.mpr htables)
      rw [given?, given?, Tree.member?_merge horderly htables.1 htables.2, hu, hv]
      exact ih (horderly.member? hv) hreplaced
    · rw [Tree.merge_of_not htables]

/-- If no section is replaced then what was there stays, unless something is laid over it. -/
theorem given?_merge (k : Setting fs sh) (horderly : t.Orderly) (h : ¬ k.Replaced under t) :
    k.given? (under.merge t) = Tree.layered (k.given? under) (k.given? t) := by
  have htables : under.IsTable ∧ t.IsTable := by_contra fun hnot => h (k.replaced_of_not hnot)
  -- Tables all the way down: at each name, the two sections are merged again.
  induction k generalizing under t with
  | here name single => exact Tree.member?_merge horderly htables.1 htables.2
  | there k ih =>
    have hmerged : (under.merge t).IsTable := Tree.isTable_merge_iff.mpr htables.2
    rw [Replaced, Tree.others_of_isTable htables.1, Tree.others_of_isTable htables.2] at h
    rw [given?, given?, given?, Tree.others_of_isTable hmerged, Tree.others_of_isTable htables.1,
      Tree.others_of_isTable htables.2]
    exact ih horderly h htables
  | inside name k ih =>
    rw [given?, given?, given?, Tree.member?_merge horderly htables.1 htables.2]
    cases hu : under.member? name with
    | none => simp
    | some u =>
      cases hv : t.member? name with
      | none => simp
      | some v =>
        have hkept : ¬ k.Replaced u v := fun hreplaced => h (.inr ⟨u, v, hu, hv, hreplaced⟩)
        have hboth : u.IsTable ∧ v.IsTable := by_contra fun hnot => hkept (k.replaced_of_not hnot)
        exact ih (horderly.member? hv) hkept hboth

/-- What a tree gives for a setting still is what it is read from after the tree was laid over another. -/
theorem given?_merge_of_given (k : Setting fs sh) (under : Tree) (horderly : t.Orderly) {x : Tree}
    (hx : k.given? t = some x) : ∃ y, k.given? (under.merge t) = some y ∧ ReadAs sh y x := by
  by_cases hreplaced : k.Replaced under t
  · exact ⟨x, by rw [k.given?_merge_of_replaced horderly hreplaced, hx], fun _ h => h⟩
  · rw [k.given?_merge horderly hreplaced, hx]
    cases k.given? under with
    | none => exact ⟨x, rfl, fun _ h => h⟩
    | some below =>
      exact ⟨below.merge x, rfl, fun _ h => by rwa [Tree.merge_of_read k.single h] at h⟩

end Setting

/-- **What a setting has after one tree was laid over another**: what the upper one gives, if it does,
    otherwise what the lower one gives, unless a section of it was replaced, and otherwise its
    default. -/
theorem valued_of_merge {title : String} {fs : Fields} {sh : Shape} (k : Setting fs sh)
    {under t : Tree} {c : fs.Carrier} (hreadable : fs.Readable) (hunder : under.Orderly)
    (ht : t.Orderly)
    (h : readGroup title fs (putNamed fs) (readListed fs 0) (under.merge t) = .ok c) :
    (∀ x, k.given? t = some x → readShape sh x = .ok (k.get c))
    ∧ (k.given? t = none → k.Replaced under t → k.get c = sh.default)
    ∧ (k.given? t = none → ¬ k.Replaced under t → Valued sh (k.given? under) (k.get c)) := by
  have horderly := Tree.orderly_merge under t hunder ht
  have hvalued := valued_of_reads k hreadable horderly (reads_of_readGroup hreadable horderly h)
  refine ⟨fun x hx => ?_, fun hnone hreplaced => ?_, fun hnone hkept => ?_⟩
  · obtain ⟨y, hy, hread⟩ := k.given?_merge_of_given under ht hx
    rw [hy] at hvalued
    exact hread _ hvalued
  · rw [k.given?_merge_of_replaced ht hreplaced, hnone] at hvalued
    exact hvalued
  · rw [k.given?_merge ht hkept, hnone, Tree.layered_none_right] at hvalued
    exact hvalued

end Config

end Rebac
