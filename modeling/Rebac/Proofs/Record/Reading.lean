import Mathlib.Data.List.Nodup
import Rebac.Proofs.Record.Json

namespace Rebac.Record

open Rebac.Json

/-!
# Written records are read back

The JSON text of a record is read as just this record, if its description lets a reader tell its fields
and its names apart.

* `Scalar.Readable`, `Shape.Readable`, `Fields.Readable` — such descriptions.
* `Scalar.read_value` — a scalar is read back from its value.
* `readMembers_members` — the members of a record fill one slot after the other.
* `read_value` — **a field is read back from its value**, by recursion over its description.
* `ofJson_of_readable` — **a record is read back from its text**.
-/

/-! ### Descriptions that can be read -/

/-- The names of the values of an enumeration, or the words of a list, are told apart. -/
def Scalar.Readable : Scalar → Prop
  | .choice e => e.names.Nodup
  | .keyword first others => (first :: others).Nodup
  | _ => True

mutual

/-- The fields of all records in a field are told apart by their names. -/
def Shape.Readable : Shape → Prop
  | .one s _ => s.Readable
  | .many s _ => s.Readable
  | .maybe _ fs => fs.Readable
  | .each _ fs => fs.Readable
  | .group _ fs => fs.Readable

/-- The fields of a record, and of all records in it, are told apart by their names. -/
def Fields.Readable : Fields → Prop
  | .nil => True
  | .cons name sh rest => name ∉ rest.names ∧ sh.Readable ∧ rest.Readable

end

instance Scalar.decReadable (s : Scalar) : Decidable s.Readable := by
  cases s <;> unfold Scalar.Readable <;> infer_instance

mutual

def Shape.decReadable : (sh : Shape) → Decidable sh.Readable
  | .one s _ => inferInstanceAs (Decidable s.Readable)
  | .many s _ => inferInstanceAs (Decidable s.Readable)
  | .maybe _ fs => fs.decReadable
  | .each _ fs => fs.decReadable
  | .group _ fs => fs.decReadable

def Fields.decReadable : (fs : Fields) → Decidable fs.Readable
  | .nil => isTrue trivial
  | .cons name sh rest =>
    have := sh.decReadable
    have := rest.decReadable
    inferInstanceAs (Decidable (name ∉ rest.names ∧ sh.Readable ∧ rest.Readable))

end

instance (fs : Fields) : Decidable fs.Readable := fs.decReadable

/-! ### Scalars -/

/-- An integer is the one of its value. -/
theorem Width.ofInt?_toInt (w : Width) (n : w.Carrier) : w.ofInt? (w.toInt n) = some n := by
  -- Each width has its own bounds; within them the conversions undo each other.
  cases w with
  | u16 =>
    have hn := UInt16.toNat_lt n
    unfold Width.ofInt? Width.toInt
    dsimp only
    rw [if_pos (by omega), Int.toNat_natCast, UInt16.ofNat_toNat]
  | u32 =>
    have hn := UInt32.toNat_lt n
    unfold Width.ofInt? Width.toInt
    dsimp only
    rw [if_pos (by omega), Int.toNat_natCast, UInt32.ofNat_toNat]
  | u64 =>
    have hn := UInt64.toNat_lt n
    unfold Width.ofInt? Width.toInt
    dsimp only
    rw [if_pos (by omega), Int.toNat_natCast, UInt64.ofNat_toNat]
  | i32 =>
    have hlow := Int32.le_toInt n
    have hhigh := Int32.toInt_lt n
    unfold Width.ofInt? Width.toInt
    dsimp only
    rw [if_pos (by omega), Int32.ofInt_toInt]
  | i64 =>
    have hlow := Int64.le_toInt n
    have hhigh := Int64.toInt_lt n
    unfold Width.ofInt? Width.toInt
    dsimp only
    rw [if_pos (by omega), Int64.ofInt_toInt]

/-- The name of a value is the name of no other value. -/
theorem Enumeration.codeOf?_nameOf? {e : Enumeration} (distinct : e.names.Nodup) {code : Int32}
    {name : String} (h : e.nameOf? code = some name) : e.codeOf? name = some code := by
  unfold Enumeration.nameOf? at h
  split at h
  · next hnonneg =>
    generalize hi : code.toInt.toNat = i at h
    obtain ⟨hlt, rfl⟩ := List.getElem?_eq_some_iff.mp h
    have hfound : e.names.findIdx? (· = e.names[i]) = some i := by
      rw [List.findIdx?_eq_some_iff_getElem]
      refine ⟨hlt, by simp, ?_⟩
      intro j hj
      -- An earlier place with the same name would be the same place.
      have hne : e.names[j] ≠ e.names[i] := by
        intro heq
        have hsame : j = i := (List.Nodup.getElem_inj_iff distinct).mp heq
        omega
      simpa using hne
    have hcode : (i : Int) = code.toInt := by omega
    rw [Enumeration.codeOf?, hfound]
    show some (Int32.ofInt (i : Int)) = some code
    rw [hcode, Int32.ofInt_toInt]
  · cases h

/-- The place of the word at a place of a list of different words. -/
theorem wordIndex?_get {words : List String} (distinct : words.Nodup) (i : Fin words.length) :
    wordIndex? (words.get i) words = some i := by
  induction words with
  | nil => exact i.elim0
  | cons word rest ih =>
    obtain ⟨hword, hrest⟩ := List.nodup_cons.mp distinct
    cases i using Fin.cases with
    | zero =>
      show (if word = word then _ else _) = _
      rw [if_pos rfl]
    | succ i =>
      have hne : word ≠ rest.get i := fun heq => hword (heq ▸ List.get_mem rest i)
      show (if word = rest.get i then _ else (wordIndex? (rest.get i) rest).map Fin.succ) = _
      rw [if_neg hne, ih hrest i]
      rfl

/-- **A scalar is read back from its value.** -/
theorem Scalar.read_value {s : Scalar} (h : s.Readable) (depth : Nat) (c : s.Carrier) :
    s.read depth (s.value c).node = .ok c := by
  cases s with
  | text => rfl
  | flag => rfl
  | integer w =>
    show readInteger w (.number (.ok (.int (w.toInt c)))) = .ok c
    unfold readInteger
    dsimp only
    rw [w.ofInt?_toInt c]
  | choice e =>
    show readChoice e depth (Scalar.value (.choice e) c).node = .ok c
    unfold Scalar.value readChoice
    dsimp only
    cases hname : e.nameOf? c with
    | some name =>
      have hcode : e.codeOf? name = some c := Enumeration.codeOf?_nameOf? h hname
      simp only [Value.node, Node.value?, readable, bind, Except.bind, Except.map, hcode]
    | none =>
      have hcode : Width.ofInt? .i32 (Int32.toInt c) = some c := Width.ofInt?_toInt .i32 c
      simp only [Value.node, Node.value?, readable, bind, Except.bind, Except.map, hcode]
  | keyword first others =>
    have hindex := wordIndex?_get h c
    show readKeyword first others (.text (.ok ((first :: others).get c))) = .ok c
    simp only [readKeyword, readable, bind, Except.bind, hindex]

/-! ### Lists -/

/-- A list is read back if its items are. -/
theorem readList_map {β : Type} {item : Node → Except DecodeError β} {f : β → Value}
    (h : ∀ b, item (f b).node = .ok b) (bs : List β) :
    readList item (Value.array (bs.map f)).node = .ok bs := by
  have heach : readEach item (Value.nodes (bs.map f)) = .ok bs := by
    induction bs with
    | nil => rfl
    | cons b bs ih =>
      rw [List.map_cons, Value.nodes, readEach, h b, ih]
      rfl
  show (readEach item (Value.nodes (bs.map f)) >>= fun bs => Except.ok bs) = _
  rw [heach]
  rfl

/-! ### Records -/

/-- All fields have been read. -/
def Fields.full : (fs : Fields) → fs.Carrier → fs.Slots
  | .nil, _ => ()
  | .cons _ _ rest, c => (some c.1, rest.full c.2)

/-- The record of all fields is the record. -/
theorem filled_full (fs : Fields) (c : fs.Carrier) : fs.filled (fs.full c) = c := by
  induction fs using Fields.induct with
  | nil => rfl
  | cons name sh rest ih => exact Prod.ext rfl (ih c.2)

/-- A record is written with the names of all its fields, in their order. -/
theorem names_members (fs : Fields) (c : fs.Carrier) : (fs.members c).map (·.1) = fs.names := by
  induction fs using Fields.induct with
  | nil => rfl
  | cons name sh rest ih => exact congrArg (name :: ·) (ih c.2)

section Slots

variable {σ : Type} {put : String → Node → σ → Except DecodeError (Option σ)} {name : String} {n : Node}
  {rest : List Member} {slots slots' : σ}

/-- A member that is taken changes the slots. -/
theorem readMembers_taken (h : put name n slots = .ok (some slots')) :
    readMembers put ((.ok name, n) :: rest) slots = readMembers put rest slots' := by
  show (put name n slots >>= fun found => _) = _
  rw [h]
  rfl

/-- A member that nobody knows is skipped. -/
theorem readMembers_skipped (h : put name n slots = .ok none) :
    readMembers put ((.ok name, n) :: rest) slots
      = match n.skipFault with
        | none => readMembers put rest slots
        | some e => .error (.malformed e) := by
  show (put name n slots >>= fun found => _) = _
  rw [h]
  rfl

/-- A member that cannot be read ends the reading. -/
theorem readMembers_refused {e : DecodeError} (h : put name n slots = .error e) :
    readMembers put ((.ok name, n) :: rest) slots = .error e := by
  show (put name n slots >>= fun found => _) = _
  rw [h]
  rfl

end Slots

/-- How members are put into the slots of a record. -/
abbrev Fields.putting (fs : Fields) (origin : Origin) (depth : Nat) :
    String → Node → fs.Slots → Except DecodeError (Option fs.Slots) :=
  fun name n slots => fs.put origin depth name n slots

variable {origin : Origin} {depth : Nat}

/-- A member with another name passes by the first field of a record. -/
theorem put_of_ne {field name : String} {sh : Shape} {rest : Fields} (h : name ≠ field) (n : Node)
    (x : Option sh.Carrier) (slots : rest.Slots) :
    (Fields.cons field sh rest).put origin depth name n (x, slots)
      = (rest.put origin depth name n slots).map (Option.map (x, ·)) := by
  rw [Fields.put, if_neg h]
  cases rest.put origin depth name n slots with
  | error e => rfl
  | ok found => cases found <;> rfl

/-- Members with other names pass by the first field of a record. -/
theorem readMembers_others {field : String} {sh : Shape} {rest : Fields}
    {members : List (String × Value)} (others : field ∉ members.map (·.1)) (x : Option sh.Carrier)
    (slots : rest.Slots) :
    readMembers ((Fields.cons field sh rest).putting origin depth) (Value.memberNodes members) (x, slots)
      = (readMembers (rest.putting origin depth) (Value.memberNodes members) slots).map (x, ·) := by
  induction members generalizing slots with
  | nil => rfl
  | cons member more ih =>
    obtain ⟨name, v⟩ := member
    obtain ⟨hne, hmore⟩ : name ≠ field ∧ field ∉ more.map (·.1) := by
      simpa [eq_comm] using others
    have hput : (Fields.cons field sh rest).putting origin depth name v.node (x, slots)
        = (rest.putting origin depth name v.node slots).map (Option.map (x, ·)) :=
      put_of_ne hne v.node x slots
    rw [Value.memberNodes]
    -- What the other fields make of the member is what the record makes of it.
    cases hfound : rest.putting origin depth name v.node slots with
    | error e =>
      rw [hfound] at hput
      rw [readMembers_refused hfound, readMembers_refused hput]
      rfl
    | ok found =>
      rw [hfound] at hput
      cases found with
      | some slots' => rw [readMembers_taken hfound, readMembers_taken hput, ih hmore]
      | none =>
        rw [readMembers_skipped hfound, readMembers_skipped hput]
        cases v.node.skipFault with
        | none => exact ih hmore slots
        | some e => rfl

/-- A record is read from an object if its members fill all slots. -/
theorem readRecord_of_full (title : String) {fs : Fields} {c : fs.Carrier}
    (items : List Node → Option Fault → Except DecodeError (fs.Carrier × List Node))
    (h : readMembers (fs.putting origin depth) (Value.memberNodes (fs.members c)) fs.vacant
      = .ok (fs.full c)) :
    readRecord origin title fs (fs.putting origin depth) items (Value.object (fs.members c)).node
      = .ok c := by
  show (readMembers (fs.putting origin depth) (Value.memberNodes (fs.members c)) fs.vacant
    >>= fun slots => Except.ok (fs.filled slots)) = _
  rw [h]
  exact congrArg Except.ok (filled_full fs c)

mutual

/-- **A field is read back from its value.** -/
theorem read_value : (sh : Shape) → sh.Readable → (depth : Nat) → (c : sh.Carrier) →
    sh.read origin depth (sh.value c).node = .ok c
  | .one s _, h, depth, c => s.read_value h depth c
  | .many s _, h, depth, cs => readList_map (s.read_value h (depth - 1)) cs
  | .maybe _ _, _, _, none => rfl
  | .maybe title fs, h, depth, some c => by
    have hrecord := readRecord_of_full title
      (fun nodes stop => fs.readItems origin (depth - 1) nodes stop)
      (readMembers_members fs h (depth - 1) c)
    show (readRecord origin title fs (fs.putting origin (depth - 1)) _
      (Value.object (fs.members c)).node >>= fun record => Except.ok (some record)) = _
    rw [hrecord]
    rfl
  | .each title fs, h, depth, cs =>
    readList_map (fun c => readRecord_of_full title _ (readMembers_members fs h (depth - 2) c)) cs
  | .group title fs, h, depth, c =>
    readRecord_of_full title (fun nodes stop => fs.readItems origin (depth - 1) nodes stop)
      (readMembers_members fs h (depth - 1) c)

/-- **The members of a record fill its slots**, one after the other. -/
theorem readMembers_members : (fs : Fields) → fs.Readable → (depth : Nat) → (c : fs.Carrier) →
    readMembers (fs.putting origin depth) (Value.memberNodes (fs.members c)) fs.vacant
      = .ok (fs.full c)
  | .nil, _, _, _ => rfl
  | .cons name sh rest, h, depth, c => by
    obtain ⟨hname, hshape, hrest⟩ := h
    have hfirst : (Fields.cons name sh rest).putting origin depth name (sh.value c.1).node
        (none, rest.vacant) = .ok (some (some c.1, rest.vacant)) := by
      show (Fields.cons name sh rest).put origin depth name (sh.value c.1).node (none, rest.vacant) = _
      rw [Fields.put, if_pos rfl]
      show (sh.read origin depth (sh.value c.1).node
        >>= fun value => Except.ok (some (some value, rest.vacant))) = _
      rw [read_value sh hshape depth c.1]
      rfl
    have hothers : name ∉ (rest.members c.2).map (·.1) := by rwa [names_members]
    show readMembers _ ((.ok name, (sh.value c.1).node) :: Value.memberNodes (rest.members c.2))
      (none, rest.vacant) = _
    rw [readMembers_taken hfirst, readMembers_others hothers, readMembers_members rest hrest depth c.2]
    rfl

end

/-! ### Structures -/

variable {α : Type} [Record α]

/-- **A record is read back from its text.** -/
theorem ofJson_of_readable (h : (Record.fields α).Readable) (a : α) : ofJson α (toJson a) = .ok a := by
  have hexact : (toValue a).Exact := exact_members _ _
  have hroot : readTree α .text (toValue a).node = .ok a := by
    show (Shape.read .text (.part α) depthLimit
        (Shape.value (.part α) (Record.unpack a)).node >>= fun c => Except.ok (Record.pack c)) = _
    rw [read_value (.part α) h]
    exact congrArg Except.ok (Record.pack_unpack a)
  have hdocument : Document.ofBytes (toJson a) = ⟨(toValue a).node, false⟩ := ofBytes_write hexact
  unfold ofJson
  dsimp only
  rw [hdocument, hroot]
  rfl

end Rebac.Record
