import Rebac.Proofs.Record.Reading

namespace Rebac.Record

open Rebac.Json

/-!
# The members of an object, one name at a time

Which members an object may have that is read as a record, told of each field by itself and not in the
order of the text.

* `Named` — a member of a name; `Taken` — what the members of one name do to the slot of its field.
* `readMembers_cons_iff` — **a field sees the members of its name, and the other fields see the rest**.
* `readMembers_perm` — the order of the members does not matter.
* `readMembers_undeclared` — members of other names are passed over.
* `readMembers_twice` — no object is read in which a field is given twice.
-/

/-- `true` iff a member has the name. -/
def Named (field : String) (m : Member) : Bool :=
  match m.1 with
  | .ok name => name = field
  | .error _ => false

/-- A member is one of a field exactly if its name can be read and is that of the field. -/
theorem named_iff {field : String} {m : Member} : Named field m = true ↔ m.1 = .ok field := by
  obtain ⟨key, n⟩ := m
  cases key with
  | error e => exact iff_of_false nofun nofun
  | ok name => exact decide_eq_true_iff.trans (by simp)

/-- What the members of one name do to the slot of its field: there is none of them, or one that fills
    the empty slot. -/
inductive Taken {β : Type} (read : Node → Except DecodeError β) :
    Option β → List Member → Option β → Prop
  | absent (x : Option β) : Taken read x [] x
  | once {m : Member} {b : β} (h : read m.2 = .ok b) : Taken read none [m] (some b)

section Slot

variable {β : Type} {read : Node → Except DecodeError β} {x x' : Option β} {ms ms' : List Member}
  {m : Member} {b : β}

/-- A slot is filled from one member at most. -/
theorem Taken.length_le (h : Taken read x ms x') : ms.length ≤ 1 := by
  cases h with
  | absent => exact Nat.zero_le 1
  | once => exact Nat.le_refl 1

/-- There is one order at most. -/
theorem Taken.perm (h : Taken read x ms x') (hperm : ms.Perm ms') : Taken read x ms' x' := by
  cases h with
  | absent =>
    rw [hperm.nil_eq.symm]
    exact .absent x
  | once hread =>
    rw [List.singleton_perm.mp hperm |>.symm]
    exact .once hread

/-- A member that is taken is read. -/
theorem Taken.reads (h : Taken read x (m :: ms) x') : ∃ b, read m.2 = .ok b := by
  cases h with
  | once hread => exact ⟨_, hread⟩

/-- A slot that is filled takes no member. -/
theorem Taken.eq_nil (h : Taken read (some b) ms x') : ms = [] := by
  cases h with
  | absent => rfl

/-- A member fills the empty slot just if nothing is left to do for the others. -/
theorem taken_cons_iff (h : read m.2 = .ok b) :
    Taken read none (m :: ms) x' ↔ Taken read (some b) ms x' := by
  constructor
  · rintro (_ | hread)
    cases h.symm.trans hread
    exact .absent (some b)
  · rintro (_ | _)
    exact .once h

end Slot

variable {origin : Origin} {depth : Nat} {ms ms' : List Member}

/-- **A field sees the members of its name, and the other fields see the rest.** -/
theorem readMembers_cons_iff {field : String} {sh : Shape} {rest : Fields} {x x' : Option sh.Carrier}
    {slots slots' : rest.Slots} :
    readMembers ((Fields.cons field sh rest).putting origin depth) ms (x, slots) = .ok (x', slots')
      ↔ Taken (sh.read origin depth) x (ms.filter (Named field)) x'
        ∧ readMembers (rest.putting origin depth) (ms.filter fun m => !Named field m) slots
          = .ok slots' := by
  induction ms generalizing x slots with
  | nil =>
    constructor
    · intro h
      cases h
      exact ⟨.absent _, rfl⟩
    · rintro ⟨htaken, h⟩
      cases h
      cases htaken
      rfl
  | cons member more ih =>
    obtain ⟨key, n⟩ := member
    cases key with
    | error e =>
      have hnamed : Named field (.error e, n) = false := rfl
      rw [List.filter_cons_of_pos (p := fun m => !Named field m) (by simp [hnamed])]
      exact iff_of_false nofun fun h => nomatch h.2
    | ok name =>
      by_cases hname : name = field
      · subst hname
        have hnamed : Named name (.ok name, n) = true := decide_eq_true rfl
        rw [List.filter_cons_of_pos hnamed, List.filter_cons_of_neg (by simp [hnamed])]
        cases x with
        | some b =>
          have hput : (Fields.cons name sh rest).putting origin depth name n (some b, slots)
              = .error (.duplicateField name) := if_pos rfl
          rw [readMembers_refused hput]
          exact iff_of_false nofun fun h => List.cons_ne_nil _ _ h.1.eq_nil
        | none =>
          have hput : (Fields.cons name sh rest).putting origin depth name n (none, slots)
              = sh.read origin depth n >>= fun b => .ok (some (some b, slots)) := if_pos rfl
          cases hread : sh.read origin depth n with
          | error e =>
            rw [hread] at hput
            rw [readMembers_refused hput]
            refine iff_of_false nofun fun h => ?_
            obtain ⟨b, hb⟩ := h.1.reads
            cases hread.symm.trans hb
          | ok b =>
            rw [hread] at hput
            rw [readMembers_taken hput, ih, taken_cons_iff hread]
      · have hnamed : Named field (.ok name, n) = false := decide_eq_false hname
        rw [List.filter_cons_of_neg (by simp [hnamed]),
          List.filter_cons_of_pos (p := fun m => !Named field m) (by simp [hnamed])]
        have hput : (Fields.cons field sh rest).putting origin depth name n (x, slots)
            = (rest.putting origin depth name n slots).map (Option.map (x, ·)) :=
          put_of_ne hname n x slots
        -- What the other fields make of the member is what the record makes of it.
        cases hfound : rest.putting origin depth name n slots with
        | error e =>
          rw [hfound] at hput
          rw [readMembers_refused hfound, readMembers_refused hput]
          exact iff_of_false nofun fun h => nomatch h.2
        | ok found =>
          rw [hfound] at hput
          cases found with
          | some slots'' => rw [readMembers_taken hfound, readMembers_taken hput, ih]
          | none =>
            rw [readMembers_skipped hfound, readMembers_skipped hput]
            cases n.skipFault with
            | none => exact ih
            | some e => exact iff_of_false nofun fun h => nomatch h.2

/-- Without any field, the members are only passed over. -/
theorem readMembers_nil_iff :
    readMembers (Fields.nil.putting origin depth) ms () = .ok ()
      ↔ ∀ m ∈ ms, (∃ name, m.1 = .ok name) ∧ m.2.skipFault = none := by
  induction ms with
  | nil => exact iff_of_true rfl nofun
  | cons member more ih =>
    obtain ⟨key, n⟩ := member
    rw [List.forall_mem_cons, ← ih]
    cases key with
    | error e => exact iff_of_false nofun fun h => nomatch h.1.1
    | ok name =>
      have hput : Fields.nil.putting origin depth name n () = .ok none := rfl
      rw [readMembers_skipped hput]
      cases hfault : n.skipFault with
      | none => simp
      | some e => simp

/-- **The order of the members does not matter.** -/
theorem readMembers_perm (fs : Fields) {slots slots' : fs.Slots} (hperm : ms.Perm ms')
    (h : readMembers (fs.putting origin depth) ms slots = .ok slots') :
    readMembers (fs.putting origin depth) ms' slots = .ok slots' := by
  induction fs using Fields.induct generalizing ms ms' with
  | nil => exact readMembers_nil_iff.mpr fun m hm => readMembers_nil_iff.mp h m (hperm.mem_iff.mpr hm)
  | cons field sh rest ih =>
    obtain ⟨htaken, hrest⟩ := readMembers_cons_iff.mp h
    exact readMembers_cons_iff.mpr ⟨htaken.perm (hperm.filter _), ih (hperm.filter _) hrest⟩

/-- **No object is read in which a field is given twice.** -/
theorem readMembers_twice (fs : Fields) {name : String} (declared : name ∈ fs.names)
    (twice : 2 ≤ (ms.filter (Named name)).length) (slots slots' : fs.Slots) :
    readMembers (fs.putting origin depth) ms slots ≠ .ok slots' := by
  induction fs using Fields.induct generalizing ms with
  | nil => cases declared
  | cons field sh rest ih =>
    intro h
    obtain ⟨htaken, hrest⟩ := readMembers_cons_iff.mp h
    by_cases hname : name = field
    · subst hname
      exact absurd htaken.length_le (by omega)
    · refine ih ((List.mem_cons.mp declared).resolve_left hname) ?_ _ _ hrest
      -- The members of this name are among those that the other fields see.
      have hsame : (ms.filter fun m => !Named field m).filter (Named name) = ms.filter (Named name) := by
        rw [List.filter_filter]
        refine List.filter_congr fun m _ => ?_
        cases hnamed : Named name m with
        | false => rfl
        | true =>
          have hother : ¬ Named field m = true := by
            rw [named_iff, named_iff.mp hnamed]
            simpa using hname
          simp [hother]
      rwa [hsame]

/-! ### Members one after the other -/

section Put

variable {σ : Type} {put : String → Node → σ → Except DecodeError (Option σ)}

/-- Members are read one after the other. -/
theorem readMembers_append (ms ms' : List Member) (slots : σ) :
    readMembers put (ms ++ ms') slots = readMembers put ms slots >>= readMembers put ms' := by
  induction ms generalizing slots with
  | nil => rfl
  | cons member more ih =>
    obtain ⟨key, n⟩ := member
    cases key with
    | error e => rfl
    | ok name =>
      cases hfound : put name n slots with
      | error e =>
        rw [List.cons_append, readMembers_refused hfound, readMembers_refused hfound]
        rfl
      | ok found =>
        cases found with
        | some slots' => rw [List.cons_append, readMembers_taken hfound, readMembers_taken hfound, ih]
        | none =>
          rw [List.cons_append, readMembers_skipped hfound, readMembers_skipped hfound]
          cases n.skipFault with
          | none => exact ih slots
          | some e => rfl

end Put

/-- A record does not know a name that is not declared. -/
theorem put_undeclared (fs : Fields) {name : String} (h : name ∉ fs.names) (n : Node) (slots : fs.Slots) :
    fs.put origin depth name n slots = .ok none := by
  induction fs using Fields.induct with
  | nil => rfl
  | cons field sh rest ih =>
    obtain ⟨hfield, hrest⟩ : name ≠ field ∧ name ∉ rest.names := by simpa [Fields.names] using h
    rw [show slots = (slots.1, slots.2) from rfl, put_of_ne hfield, ih hrest]
    rfl

/-- Members of names that are not declared are passed over. -/
theorem readMembers_undeclared (fs : Fields) (slots : fs.Slots)
    (h : ∀ m ∈ ms, (∃ name, m.1 = .ok name ∧ name ∉ fs.names) ∧ m.2.skipFault = none) :
    readMembers (fs.putting origin depth) ms slots = .ok slots := by
  induction ms with
  | nil => rfl
  | cons member more ih =>
    obtain ⟨⟨⟨name, hkey, hname⟩, hfault⟩, hmore⟩ := List.forall_mem_cons.mp h
    obtain ⟨key, n⟩ := member
    dsimp only at hkey hfault
    rw [hkey, readMembers_skipped (put_undeclared fs hname n slots), hfault]
    exact ih hmore

end Rebac.Record
