import Mathlib.Logic.Relation
import Rebac.Proofs.Json.Spelling
import Rebac.Proofs.Record.Members
import Rebac.Proofs.Steps

namespace Rebac.Record

open Rebac.Json

/-!
# Members that are moved, added and repeated

What becomes of a text that is read as a record if the members of an object in it are changed that stands
for the record, or for a record inside of it.

* `Shape.Changed` — a change of the members of one such object, wherever it is in the text.
* `Kept` — what can be said of a reading that goes on after the change; `read_changed` says that it
  holds of the whole if it holds of the object, **by recursion over the description of the record**.
* `Tolerated` — members in another order, and more members whose names are not declared;
  `stillRead_of_tolerated` says that the object is read as before.
* `Doubled` — one more member of a declared name that is given already; `neverRead_of_doubled` says that
  the object cannot be read.
* `ofJson_tolerated`, `ofJson_doubled` — the same of whole texts.
-/

/-! ### Changes inside a text -/

/-- A change inside a value that stands for a record: of the members of the object, of what one of its
    members holds, or of an item if the record is given as the list of its fields. -/
inductive RecordChanged (members : List SpelledMember → List SpelledMember → Prop)
    (member : String → Spelling → Spelling → Prop) (item : Nat → Spelling → Spelling → Prop) :
    Spelling → Spelling → Prop
  | here {inner inner' : List Blank} {ms ms' : List SpelledMember} (h : members ms ms') :
    RecordChanged members member item (.object inner ms) (.object inner' ms')
  | member {inner : List Blank} {front back : List SpelledMember} {label : Spaced Quoted}
    {v v' : Spaced Spelling} {name : String} (hname : Quoted.text label.content = .ok name)
    (h : member name v.content v'.content) :
    RecordChanged members member item (.object inner (front ++ (label, v) :: back))
      (.object inner (front ++ (label, v') :: back))
  | item {inner : List Blank} {front back : List (Spaced Spelling)} {v v' : Spaced Spelling}
    (h : item front.length v.content v'.content) :
    RecordChanged members member item (.array inner (front ++ v :: back))
      (.array inner (front ++ v' :: back))

/-- A kind of change of the members of an object that stands for a record with these fields. -/
abbrev Change := Fields → List SpelledMember → List SpelledMember → Prop

mutual

/-- A change of one object that stands for a record, inside the value of a field. -/
def Shape.Changed (change : Change) : Shape → Spelling → Spelling → Prop
  | .one _ _, _, _ => False
  | .many _ _, _, _ => False
  | .maybe _ fs, v, v' =>
    RecordChanged (change fs) (fun name v v' => fs.MemberChanged change name v v')
      (fun i v v' => fs.ItemChanged change i v v') v v'
  | .each _ fs, v, v' => ∃ inner front item item' back, v = .array inner (front ++ item :: back)
    ∧ v' = .array inner (front ++ item' :: back)
    ∧ RecordChanged (change fs) (fun name v v' => fs.MemberChanged change name v v')
        (fun i v v' => fs.ItemChanged change i v v') item.content item'.content
  | .group _ fs, v, v' =>
    RecordChanged (change fs) (fun name v v' => fs.MemberChanged change name v v')
      (fun i v v' => fs.ItemChanged change i v v') v v'

/-- Such a change inside the value of the field of that name. -/
def Fields.MemberChanged (change : Change) : Fields → String → Spelling → Spelling → Prop
  | .nil, _, _, _ => False
  | .cons field sh rest, name, v, v' =>
    if name = field then sh.Changed change v v' else rest.MemberChanged change name v v'

/-- Such a change inside the value of the field at that place. -/
def Fields.ItemChanged (change : Change) : Fields → Nat → Spelling → Spelling → Prop
  | .nil, _, _, _ => False
  | .cons _ sh _, 0, v, v' => sh.Changed change v v'
  | .cons _ _ rest, i + 1, v, v' => rest.ItemChanged change i v v'

end

/-! ### Readings that go on -/

/-- Something that can be said of two readings and holds of what comes of them later, whether they differ
    in a step or in what follows a step. -/
structure Kept (R : (α : Type) → Except DecodeError α → Except DecodeError α → Prop) : Prop where
  before : ∀ {α β : Type} {x y : Except DecodeError α} (f : α → Except DecodeError β),
    R α x y → R β (x >>= f) (y >>= f)
  after : ∀ {α β : Type} (x : Except DecodeError α) {f g : α → Except DecodeError β},
    (∀ a, x = .ok a → R β (f a) (g a)) → R β (x >>= f) (x >>= g)

/-- Such a thing holds of two readings that have failed in the same way. -/
theorem Kept.failed {R : (α : Type) → Except DecodeError α → Except DecodeError α → Prop}
    (kept : Kept R) {α : Type} (e : DecodeError) : R α (.error e) (.error e) := by
  have hnothing : ∀ a : α, Except.error e = Except.ok a → R α (.ok a) (.ok a) := nofun
  exact kept.after (Except.error e) hnothing

/-- What is read is still read, and is the same. -/
def StillRead (α : Type) (x y : Except DecodeError α) : Prop :=
  ∀ a, x = .ok a → y = .ok a

/-- Nothing is read any more. -/
def NeverRead (α : Type) (_ y : Except DecodeError α) : Prop :=
  ∀ a, y ≠ .ok a

/-- That the same is still read holds of all that comes later, too. -/
theorem kept_stillRead : Kept StillRead where
  before f h b hb := by
    obtain ⟨a, hx, hf⟩ := bind_eq_ok_iff.mp hb
    exact bind_eq_ok_iff.mpr ⟨a, h a hx, hf⟩
  after x _ _ h b hb := by
    obtain ⟨a, hx, hf⟩ := bind_eq_ok_iff.mp hb
    exact bind_eq_ok_iff.mpr ⟨a, hx, h a hx b hf⟩

/-- That nothing is read any more holds of all that comes later, too. -/
theorem kept_neverRead : Kept NeverRead where
  before f h b hb := by
    obtain ⟨a, hy, -⟩ := bind_eq_ok_iff.mp hb
    exact h a hy
  after x _ _ h b hb := by
    obtain ⟨a, hx, hg⟩ := bind_eq_ok_iff.mp hb
    exact h a hx b hg

/-! ### Trees of changed texts -/

/-- The trees of the items of a list are those of their spellings. -/
theorem itemNodes_eq_map (items : List (Spaced Spelling)) :
    Spelling.itemNodes items = items.map fun item => item.content.node := by
  induction items with
  | nil => rfl
  | cons item rest ih => exact congrArg (item.content.node :: ·) ih

/-- The tree of a member. -/
def memberNode (m : SpelledMember) : Member :=
  (Quoted.text m.1.content, m.2.content.node)

/-- The trees of the members of an object are those of their spellings. -/
theorem memberNodes_eq_map (members : List SpelledMember) :
    Spelling.memberNodes members = members.map memberNode := by
  induction members with
  | nil => rfl
  | cons member rest ih => exact congrArg (memberNode member :: ·) ih

section Kept

variable {R : (α : Type) → Except DecodeError α → Except DecodeError α → Prop} {origin : Origin}

/-- A change of one item of a list. -/
theorem readEach_changed (kept : Kept R) {β : Type} {item : Node → Except DecodeError β} {n n' : Node}
    (h : R β (item n) (item n')) (front back : List Node) :
    R _ (readEach item (front ++ n :: back)) (readEach item (front ++ n' :: back)) := by
  induction front with
  | nil => exact kept.before _ h
  | cons first rest ih => exact kept.after _ fun b _ => kept.before _ ih

/-- A member of a spelled text, which has no fault for one who skips it. -/
theorem readMembers_spelled {σ : Type} {put : String → Node → σ → Except DecodeError (Option σ)}
    (name : String) (v : Spelling) (rest : List Member) (slots : σ) :
    readMembers put ((.ok name, v.node) :: rest) slots
      = put name v.node slots >>= fun found => readMembers put rest (found.getD slots) := by
  cases hfound : put name v.node slots with
  | error e => exact readMembers_refused hfound
  | ok found =>
    cases found with
    | some slots' => exact readMembers_taken hfound
    | none =>
      rw [readMembers_skipped hfound, skipFault_node]
      rfl

/-- A change inside a record. -/
theorem readRecord_changed (kept : Kept R) {title : String} {fs : Fields}
    {put : String → Node → fs.Slots → Except DecodeError (Option fs.Slots)}
    {items : List Node → Option Fault → Except DecodeError (fs.Carrier × List Node)}
    {members : List SpelledMember → List SpelledMember → Prop}
    {member : String → Spelling → Spelling → Prop} {item : Nat → Spelling → Spelling → Prop}
    (hmembers : ∀ ms ms', members ms ms' → R _ (readMembers put (Spelling.memberNodes ms) fs.vacant)
      (readMembers put (Spelling.memberNodes ms') fs.vacant))
    (hmember : ∀ name v v' slots, member name v v' →
      R _ (put name v.node slots) (put name v'.node slots))
    (hitem : ∀ (front back : List Node) v v', item front.length v v' →
      R _ (items (front ++ v.node :: back) none) (items (front ++ v'.node :: back) none))
    {v v' : Spelling} (h : RecordChanged members member item v v') :
    R _ (readRecord origin title fs put items v.node)
      (readRecord origin title fs put items v'.node) := by
  cases h with
  | here h => exact kept.before _ (hmembers _ _ h)
  | @member inner front back label v v' name hname h =>
    -- The members before the changed one are read alike; behind it only the slots matter.
    show R _ (readMembers put (Spelling.memberNodes (front ++ (label, v) :: back)) fs.vacant >>= _)
      (readMembers put (Spelling.memberNodes (front ++ (label, v') :: back)) fs.vacant >>= _)
    refine kept.before _ ?_
    simp only [memberNodes_eq_map, List.map_append, List.map_cons, memberNode, hname,
      readMembers_append]
    refine kept.after _ fun slots _ => ?_
    rw [readMembers_spelled, readMembers_spelled]
    exact kept.before _ (hmember name _ _ slots h)
  | @item inner front back v v' h =>
    -- In the form of a list the check of its length comes last, and the length is unchanged.
    have hlength : (Spelling.itemNodes (front ++ v :: back)).length
        = (Spelling.itemNodes (front ++ v' :: back)).length := by
      simp [itemNodes_eq_map]
    have hitems := hitem (Spelling.itemNodes front) (Spelling.itemNodes back) v.content v'.content
      (by simpa [itemNodes_eq_map] using h)
    show R _ (items (Spelling.itemNodes (front ++ v :: back)) none >>= fun found =>
        checkListEnd origin (Spelling.itemNodes (front ++ v :: back)).length found.2 none
          >>= fun _ => Except.ok found.1)
      (items (Spelling.itemNodes (front ++ v' :: back)) none >>= fun found =>
        checkListEnd origin (Spelling.itemNodes (front ++ v' :: back)).length found.2 none
          >>= fun _ => Except.ok found.1)
    rw [hlength]
    refine kept.before _ ?_
    simpa [itemNodes_eq_map] using hitems

/-- A change of members, as far as their record is read, is one of everything that is read of the
    text. -/
def Change.Carries (change : Change) (R : (α : Type) → Except DecodeError α → Except DecodeError α → Prop)
    (origin : Origin) : Prop :=
  ∀ (fs : Fields) (depth : Nat) (ms ms' : List SpelledMember), change fs ms ms' →
    R _ (readMembers (fs.putting origin depth) (Spelling.memberNodes ms) fs.vacant)
      (readMembers (fs.putting origin depth) (Spelling.memberNodes ms') fs.vacant)

variable {change : Change} {v v' : Spelling}

mutual

/-- **What holds of the reading of the changed object holds of the reading of the field.** -/
theorem read_changed (kept : Kept R) (carries : change.Carries R origin) :
    (sh : Shape) → (depth : Nat) → {v v' : Spelling} → sh.Changed change v v' →
      R _ (sh.read origin depth v.node) (sh.read origin depth v'.node)
  | .one _ _, _, _, _, h => h.elim
  | .many _ _, _, _, _, h => h.elim
  | .maybe title fs, depth, v, v', h => by
    have hrecord : R _ (readRecord origin title fs (fs.putting origin (depth - 1))
          (fun nodes stop => fs.readItems origin (depth - 1) nodes stop) v.node)
        (readRecord origin title fs (fs.putting origin (depth - 1))
          (fun nodes stop => fs.readItems origin (depth - 1) nodes stop) v'.node) :=
      readRecord_changed kept (carries fs (depth - 1))
        (fun name _ _ slots h => put_changed kept carries fs (depth - 1) slots h)
        (fun front back _ _ h => readItems_changed kept carries fs (depth - 1) front back h) h
    -- What stands for a record is not null.
    have hread := kept.before (fun record => Except.ok (some record)) hrecord
    cases h <;> exact hread
  | .each title fs, depth, v, v', h => by
    obtain ⟨inner, front, item, item', back, rfl, rfl, h⟩ := h
    have hrecord : R _ (readRecord origin title fs (fs.putting origin (depth - 2))
          (fun nodes stop => fs.readItems origin (depth - 2) nodes stop) item.content.node)
        (readRecord origin title fs (fs.putting origin (depth - 2))
          (fun nodes stop => fs.readItems origin (depth - 2) nodes stop) item'.content.node) :=
      readRecord_changed kept (carries fs (depth - 2))
        (fun name _ _ slots h => put_changed kept carries fs (depth - 2) slots h)
        (fun front back _ _ h => readItems_changed kept carries fs (depth - 2) front back h) h
    show R _ (readEach _ (Spelling.itemNodes (front ++ item :: back)) >>= _)
      (readEach _ (Spelling.itemNodes (front ++ item' :: back)) >>= _)
    refine kept.before _ ?_
    simp only [itemNodes_eq_map, List.map_append, List.map_cons]
    exact readEach_changed kept hrecord _ _
  | .group title fs, depth, v, v', h =>
    readRecord_changed kept (carries fs (depth - 1))
      (fun name _ _ slots h => put_changed kept carries fs (depth - 1) slots h)
      (fun front back _ _ h => readItems_changed kept carries fs (depth - 1) front back h) h

/-- What holds of the readings of a changed part holds of the slots that its member fills. -/
theorem put_changed (kept : Kept R) (carries : change.Carries R origin) :
    (fs : Fields) → (depth : Nat) → {name : String} → {v v' : Spelling} → (slots : fs.Slots) →
      fs.MemberChanged change name v v' →
      R _ (fs.put origin depth name v.node slots) (fs.put origin depth name v'.node slots)
  | .nil, _, _, _, _, _, h => h.elim
  | .cons field sh rest, depth, name, v, v', slots, h => by
    unfold Fields.MemberChanged at h
    unfold Fields.put
    by_cases hname : name = field
    · rw [if_pos hname] at h
      rw [if_pos hname, if_pos hname]
      cases slots.1 with
      | some b => exact kept.failed (.duplicateField field)
      | none => exact kept.before _ (read_changed kept carries sh depth h)
    · rw [if_neg hname] at h
      rw [if_neg hname, if_neg hname]
      exact kept.before _ (put_changed kept carries rest depth slots.2 h)

/-- What holds of the readings of a changed part holds of the fields that are read from its list. -/
theorem readItems_changed (kept : Kept R) (carries : change.Carries R origin) :
    (fs : Fields) → (depth : Nat) → {v v' : Spelling} → (front back : List Node) →
      fs.ItemChanged change front.length v v' →
      R _ (fs.readItems origin depth (front ++ v.node :: back) none)
        (fs.readItems origin depth (front ++ v'.node :: back) none)
  | .nil, _, _, _, _, _, h => h.elim
  | .cons _ sh _, depth, _, _, [], _, h => kept.before _ (read_changed kept carries sh depth h)
  | .cons _ _ rest, depth, _, _, _ :: front, back, h =>
    kept.after _ fun _ _ => kept.before _ (readItems_changed kept carries rest depth front back h)

end

end Kept

/-! ### Members that are moved and added -/

/-- The members in any order, with any more members whose names can be read and are not declared. -/
def Tolerated : Change := fun fs ms ms' =>
  ∃ extra, ms'.Perm (ms ++ extra)
    ∧ ∀ m ∈ extra, ∃ name, Quoted.text m.1.content = .ok name ∧ name ∉ fs.names

/-- An object is read as before if members are moved and unknown ones are added. -/
theorem stillRead_of_tolerated (origin : Origin) : Change.Carries Tolerated StillRead origin := by
  rintro fs depth ms ms' ⟨extra, hperm, hextra⟩ slots hread
  rw [memberNodes_eq_map] at hread ⊢
  have hadded : readMembers (fs.putting origin depth) ((ms ++ extra).map memberNode) fs.vacant
      = .ok slots := by
    rw [List.map_append, readMembers_append, hread]
    refine readMembers_undeclared fs slots fun m hm => ?_
    obtain ⟨added, hadded, rfl⟩ := List.mem_map.mp hm
    exact ⟨hextra added hadded, skipFault_node _⟩
  exact readMembers_perm fs (hperm.symm.map memberNode) hadded

/-! ### Members that are given twice -/

/-- One more member, somewhere among the others, with a declared name that one of them has already. -/
def Doubled : Change := fun fs ms ms' =>
  ∃ front back added, ms = front ++ back ∧ ms' = front ++ added :: back
    ∧ ∃ name ∈ fs.names, Quoted.text added.1.content = .ok name
      ∧ ∃ m ∈ ms, Quoted.text m.1.content = .ok name

/-- An object cannot be read in which a member is given a second time. -/
theorem neverRead_of_doubled (origin : Origin) : Change.Carries Doubled NeverRead origin := by
  rintro fs depth ms ms' ⟨front, back, added, rfl, rfl, name, hdeclared, hadded, m, hm, hname⟩ slots
  rw [memberNodes_eq_map]
  refine readMembers_twice fs hdeclared ?_ _ _
  have hfirst : Named name (memberNode m) = true := named_iff.mpr hname
  have hsecond : Named name (memberNode added) = true := named_iff.mpr hadded
  -- The new member and one of the others have the name.
  have hperm : (front ++ added :: back).Perm (added :: (front ++ back)) := List.perm_middle
  have hone : 0 < (((front ++ back).map memberNode).filter (Named name)).length := by
    rw [List.length_pos_iff_exists_mem]
    exact ⟨memberNode m, List.mem_filter.mpr ⟨List.mem_map_of_mem hm, hfirst⟩⟩
  rw [((hperm.map memberNode).filter _).length_eq, List.map_cons, List.filter_cons_of_pos hsecond,
    List.length_cons]
  omega

/-! ### Texts -/

section Texts

variable {α : Type} [Record α] {t t' : SpelledText} {a : α}

/-- A text of the grammar is read just as its tree. -/
theorem ofJson_bytes (t : SpelledText) :
    ofJson α (SpelledText.bytes t) = readTree α .text t.content.node := by
  unfold ofJson
  dsimp only
  rw [ofBytes_bytes]
  show (readTree α .text t.content.node >>= fun a => Except.ok a) = _
  cases readTree α .text t.content.node <;> rfl

/-- **A text is read as before if members are moved and unknown ones are added**, in any number of objects
    that stand for records. -/
theorem ofJson_tolerated (h : ofJson α (SpelledText.bytes t) = .ok a)
    (changed : Relation.ReflTransGen (Shape.Changed Tolerated (.part α)) t.content t'.content) :
    ofJson α (SpelledText.bytes t') = .ok a := by
  rw [ofJson_bytes] at h ⊢
  generalize t'.content = v at changed
  induction changed with
  | refl => exact h
  | tail _ hstep ih =>
    have hkept := read_changed kept_stillRead (stillRead_of_tolerated .text) (.part α) depthLimit hstep
    exact kept_stillRead.before (fun c => Except.ok (Record.pack c)) hkept a ih

/-- **A text cannot be read in which a member of such an object is given a second time.** -/
theorem ofJson_doubled (changed : Shape.Changed Doubled (.part α) t.content t'.content) :
    ∃ e, ofJson α (SpelledText.bytes t') = .error e := by
  have hkept := read_changed kept_neverRead (neverRead_of_doubled .text) (.part α) depthLimit changed
  have hnever : ∀ a : α, readTree α .text t'.content.node ≠ .ok a :=
    kept_neverRead.before (fun c => Except.ok (Record.pack c)) hkept
  rw [ofJson_bytes]
  cases hread : readTree α .text t'.content.node with
  | error e => exact ⟨e, rfl⟩
  | ok a => exact absurd hread (hnever a)

end Texts

end Rebac.Record
