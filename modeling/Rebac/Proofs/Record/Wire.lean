import Rebac.Proofs.Record.Json
import Rebac.Record.Wire

namespace Rebac.Record

/-!
# Records on the wire are read back

The wire form of a record is read as just this record, if its description leaves room for its numbers.

* `varint?_varint`, `head?_varint` — a number, and the head of a field, are read back whatever follows.
* `Payload.Short` — the contents that a reader accepts; `fields?_written` — a sequence of numbered fields
  with such contents is cut into these fields.
* `Scalar.Sendable`, `Shape.Sendable`, `Fields.Sendable` — the descriptions that leave room.
* `Fields.parts` — the numbered fields of a record; `encode_eq` says that they are what is written.
* `merge_shapeParts`, `merge_parts` — **what is written for a field, and for a record, is taken in again**,
  by recursion over the description.
* `ofWire?_of_sendable` — **a record is read back from its wire form**.
-/

/-! ### Numbers -/

/-- A number below 256 is kept by its byte. -/
theorem toNat_ofNat_byte {n : Nat} (h : n < 256) : (UInt8.ofNat n).toNat = n := by
  rw [UInt8.toNat_ofNat']
  exact Nat.mod_eq_of_lt h

/-- **A number is read back from its groups**, whatever follows. All groups but the last hold seven bits,
    the last holds one. -/
theorem varintGroups?_varintGroups (groups : Nat) {n : Nat} (h : n < 2 ^ (7 * groups + 1))
    (rest : Bytes) : varintGroups? groups (varintGroups groups n ++ rest) = some (n, rest) := by
  induction groups generalizing n with
  | zero =>
    have hn : (UInt8.ofNat n).toNat = n := toNat_ofNat_byte (by omega)
    have hbit : UInt8.ofNat n < 2 := by
      rw [UInt8.lt_iff_toNat_lt, hn]
      exact h
    show (if UInt8.ofNat n < 2 then some ((UInt8.ofNat n).toNat, rest) else none) = _
    rw [if_pos hbit, hn]
  | succ groups ih =>
    unfold varintGroups
    by_cases hlast : n < 128
    · have hn : (UInt8.ofNat n).toNat = n := toNat_ofNat_byte (by omega)
      have hlow : UInt8.ofNat n < 128 := by
        rw [UInt8.lt_iff_toNat_lt, hn]
        exact hlast
      rw [if_pos hlast]
      show (if UInt8.ofNat n < 128 then some ((UInt8.ofNat n).toNat, rest) else _) = _
      rw [if_pos hlow, hn]
    · -- The upper bit says that there is more; what is left loses the seven bits of this group.
      have hn : (UInt8.ofNat (n % 128 + 128)).toNat = n % 128 + 128 := toNat_ofNat_byte (by omega)
      have hhigh : ¬ UInt8.ofNat (n % 128 + 128) < 128 := by
        rw [UInt8.lt_iff_toNat_lt, hn]
        exact Nat.not_lt.mpr (Nat.le_add_left ..)
      have hleft : n / 128 < 2 ^ (7 * groups + 1) := by
        rw [Nat.div_lt_iff_lt_mul (by omega), ← Nat.pow_add 2 _ 7]
        exact lt_of_lt_of_eq h (congrArg (2 ^ ·) (by omega))
      have hsum : n / 128 * 128 + (n % 128 + 128 - 128) = n := by omega
      rw [if_neg hlast, List.cons_append, varintGroups?, if_neg hhigh, ih hleft]
      dsimp only
      rw [hn, hsum]

/-- **A number of 64 bits is read back**, whatever follows. -/
theorem varint?_varint {n : Nat} (h : n < 2 ^ 64) (rest : Bytes) :
    varint? (varint n ++ rest) = some (n, rest) :=
  varintGroups?_varintGroups 9 h rest

/-- The head of a field is read back, whatever follows. -/
theorem head?_varint {number kind : Nat} (hlow : 0 < number) (hhigh : number < 2 ^ 29)
    (hkind : kind ≤ 5) (rest : Bytes) :
    head? (varint (number * 8 + kind) ++ rest) = some ((number, kind), rest) := by
  have hnumber : (number * 8 + kind) / 8 = number := by omega
  have hmod : (number * 8 + kind) % 8 = kind := by omega
  unfold head?
  rw [varint?_varint (by omega)]
  dsimp only
  rw [if_pos (by omega), hnumber, hmod]

/-! ### Numbered fields -/

/-- A content that a record is made of, and whose number or length has 64 bits. -/
def Payload.Short : Payload → Prop
  | .number n => n < 2 ^ 64
  | .bytes content => content.length < 2 ^ 64
  | .fixed _ => False
  | .group => False

/-- A numbered field that can be written. -/
def Legible (f : NumberedField) : Prop :=
  0 < f.1 ∧ f.1 < 2 ^ 29 ∧ f.2.Short

/-- The bytes of numbered fields. -/
def written (parts : List NumberedField) : Bytes :=
  parts.flatMap fun f => writeField f.1 f.2

/-- Fields are written one after the other. -/
theorem written_cons (f : NumberedField) (parts : List NumberedField) :
    written (f :: parts) = writeField f.1 f.2 ++ written parts :=
  List.flatMap_cons

/-- What two lists of fields are written as stands one after the other. -/
theorem written_append (parts others : List NumberedField) :
    written (parts ++ others) = written parts ++ written others :=
  List.flatMap_append

/-- The content of kind zero is a number. -/
theorem content?_number (fuel depth number : Nat) (bs : Bytes) :
    content? fuel (depth + 1) number 0 bs = (varint? bs).map fun (n, rest) => (.number n, rest) := by
  cases fuel <;> rfl

/-- The content of kind two is as many bytes as the number in front of it says. -/
theorem content?_bytes (fuel depth number : Nat) (bs : Bytes) :
    content? fuel (depth + 1) number 2 bs = (do
      let (n, rest) ← varint? bs
      let (content, rest) ← splitBytes? n rest
      some (.bytes content, rest)) := by
  cases fuel <;> rfl

/-- A number and its content are read back from what is written for them, whatever follows. -/
theorem content?_writeField {f : NumberedField} (h : Legible f) (depth : Nat) (rest : Bytes) :
    ∃ kind more, head? (writeField f.1 f.2 ++ rest) = some ((f.1, kind), more)
      ∧ ∀ fuel, content? fuel (depth + 1) f.1 kind more = some (f.2, rest) := by
  obtain ⟨number, payload⟩ := f
  obtain ⟨hlow, hhigh, hshort⟩ := h
  cases payload with
  | number n =>
    refine ⟨0, varint n ++ rest, ?_, fun fuel => ?_⟩
    · show head? (varint (number * 8) ++ varint n ++ rest) = _
      rw [List.append_assoc]
      exact head?_varint hlow hhigh (Nat.zero_le 5) _
    · rw [content?_number, varint?_varint hshort]
      rfl
  | bytes content =>
    have hsplit : splitBytes? content.length (content ++ rest) = some (content, rest) := by
      unfold splitBytes?
      rw [if_pos (by simp), List.take_left, List.drop_left]
    refine ⟨2, varint content.length ++ (content ++ rest), ?_, fun fuel => ?_⟩
    · show head? (varint (number * 8 + 2) ++ varint content.length ++ content ++ rest) = _
      rw [List.append_assoc, List.append_assoc]
      exact head?_varint hlow hhigh (by omega) _
    · rw [content?_bytes, varint?_varint hshort]
      show (splitBytes? content.length (content ++ rest) >>= fun found => _) = _
      rw [hsplit]
      rfl
  | fixed size => exact hshort.elim
  | group => exact hshort.elim

/-- Something is written for a numbered field. -/
theorem writeField_ne_nil {f : NumberedField} (h : Legible f) : writeField f.1 f.2 ≠ [] := by
  intro hnil
  obtain ⟨kind, more, hhead, -⟩ := content?_writeField h 0 []
  rw [hnil] at hhead
  cases hhead

/-- The first of the numbered fields is cut off. -/
theorem fieldsUpTo?_writeField {f : NumberedField} (h : Legible f) (depth fuel : Nat) (rest : Bytes) :
    fieldsUpTo? (depth + 1) (fuel + 1) (writeField f.1 f.2 ++ rest)
      = (fieldsUpTo? (depth + 1) fuel rest).map (f :: ·) := by
  obtain ⟨kind, more, hhead, hcontent⟩ := content?_writeField h depth rest
  obtain ⟨b, bs, hbytes⟩ := List.exists_cons_of_ne_nil (writeField_ne_nil h)
  rw [hbytes, List.cons_append] at hhead ⊢
  rw [fieldsUpTo?, hhead]
  show (content? (more.length + 1) (depth + 1) f.1 kind more >>= fun found => _) = _
  rw [hcontent]
  show (fieldsUpTo? (depth + 1) fuel rest >>= fun more => _) = _
  cases fieldsUpTo? (depth + 1) fuel rest <;> rfl

/-- Every field takes a byte at least. -/
theorem length_le_written {parts : List NumberedField} (h : ∀ f ∈ parts, Legible f) :
    parts.length ≤ (written parts).length := by
  induction parts with
  | nil => exact Nat.le_refl 0
  | cons f parts ih =>
    obtain ⟨hf, hparts⟩ := List.forall_mem_cons.mp h
    have hpos : 0 < (writeField f.1 f.2).length := List.length_pos_iff.mpr (writeField_ne_nil hf)
    have hmore := ih hparts
    rw [written_cons, List.length_append, List.length_cons]
    omega

/-- **A sequence of numbered fields is cut into these fields.** -/
theorem fields?_written {parts : List NumberedField} (h : ∀ f ∈ parts, Legible f) {depth : Nat}
    (hdepth : 0 < depth) : fields? depth (written parts) = some parts := by
  obtain ⟨depth, rfl⟩ := Nat.exists_eq_succ_of_ne_zero (Nat.ne_of_gt hdepth)
  have hcut : ∀ fuel, parts.length ≤ fuel →
      fieldsUpTo? (depth + 1) fuel (written parts) = some parts := by
    induction parts with
    | nil =>
      intro fuel _
      cases fuel <;> rfl
    | cons f parts ih =>
      intro fuel hfuel
      obtain ⟨hf, hparts⟩ := List.forall_mem_cons.mp h
      cases fuel with
      | zero => cases hfuel
      | succ fuel =>
        have hmore := ih hparts fuel (Nat.le_of_succ_le_succ hfuel)
        rw [written_cons, fieldsUpTo?_writeField hf, hmore]
        rfl
  exact hcut _ (length_le_written h)

/-! ### Descriptions that can be sent -/

/-- A list of words has no more words than there are numbers of 64 bits. -/
def Scalar.Sendable : Scalar → Prop
  | .keyword _ others => others.length < 2 ^ 64
  | _ => True

mutual

/-- A list is empty unless it is given, so that its items can be added one by one. -/
def Shape.Sendable : Shape → Prop
  | .one s _ => s.Sendable
  | .many s d => s.Sendable ∧ d.length = 0
  | .maybe _ fs => fs.Sendable
  | .each _ fs => fs.Sendable
  | .group _ fs => fs.Sendable

/-- There is a number of 29 bits for every field. -/
def Fields.Sendable : Fields → Prop
  | .nil => True
  | .cons _ sh rest => rest.names.length + 2 ≤ 2 ^ 29 ∧ sh.Sendable ∧ rest.Sendable

end

instance Scalar.decSendable : (s : Scalar) → Decidable s.Sendable
  | .keyword _ others => Nat.decLt others.length (2 ^ 64)
  | .text | .flag | .integer _ | .choice _ => isTrue trivial

mutual

def Shape.decSendable : (sh : Shape) → Decidable sh.Sendable
  | .one s _ => inferInstanceAs (Decidable s.Sendable)
  | .many s d => inferInstanceAs (Decidable (s.Sendable ∧ d.length = 0))
  | .maybe _ fs => fs.decSendable
  | .each _ fs => fs.decSendable
  | .group _ fs => fs.decSendable

def Fields.decSendable : (fs : Fields) → Decidable fs.Sendable
  | .nil => isTrue trivial
  | .cons _ sh rest =>
    have := sh.decSendable
    have := rest.decSendable
    inferInstanceAs (Decidable (rest.names.length + 2 ≤ 2 ^ 29 ∧ sh.Sendable ∧ rest.Sendable))

end

instance (fs : Fields) : Decidable fs.Sendable := fs.decSendable

/-- The fields of a record are numbered from one. -/
theorem Fields.Sendable.numbers {fs : Fields} (h : fs.Sendable) : 1 + fs.names.length ≤ 2 ^ 29 := by
  cases fs with
  | nil => exact Nat.one_le_two_pow
  | cons name sh rest =>
    have hbound := h.1
    show 1 + (rest.names.length + 1) ≤ 2 ^ 29
    omega

/-! ### Scalars -/

/-- A number that is not negative is its own bits. -/
theorem Width.bits_eq {w : Width} {n : w.Carrier} {k : Nat} (h : w.toInt n = k) (hk : k < 2 ^ 64) :
    w.bits n = k := by
  rw [Width.bits, h]
  omega

/-- An integer is the one of its bits; a negative integer fills the upper bits, which are dropped. -/
theorem Width.ofBits_bits (w : Width) (n : w.Carrier) : w.ofBits (w.bits n) = n := by
  cases w with
  | u16 =>
    have hn := UInt16.toNat_lt n
    have hbits : Width.bits .u16 n = n.toNat := Width.bits_eq rfl (by omega)
    show UInt16.ofNat (Width.bits .u16 n) = n
    rw [hbits, UInt16.ofNat_toNat]
  | u32 =>
    have hn := UInt32.toNat_lt n
    have hbits : Width.bits .u32 n = n.toNat := Width.bits_eq rfl (by omega)
    show UInt32.ofNat (Width.bits .u32 n) = n
    rw [hbits, UInt32.ofNat_toNat]
  | u64 =>
    have hn := UInt64.toNat_lt n
    have hbits : Width.bits .u64 n = n.toNat := Width.bits_eq rfl (by omega)
    show UInt64.ofNat (Width.bits .u64 n) = n
    rw [hbits, UInt64.ofNat_toNat]
  | i32 =>
    -- A negative integer is sent with 64 bits; the lower 32 are the integer again.
    have hlow := Int32.le_toInt n
    have hhigh := Int32.toInt_lt n
    show Int32.ofNat (n.toInt % 2 ^ 64).toNat = n
    rw [← Int32.toInt_inj, Int32.toInt_ofNat', Int.toNat_of_nonneg (by omega), Int.bmod_def,
      Int32.size]
    split <;> omega
  | i64 =>
    have hlow := Int64.le_toInt n
    have hhigh := Int64.toInt_lt n
    show Int64.ofNat (n.toInt % 2 ^ 64).toNat = n
    rw [← Int64.toInt_inj, Int64.toInt_ofNat', Int.toNat_of_nonneg (by omega), Int.bmod_def,
      Int64.size]
    split <;> omega

/-- The bits of a number fit into 64. -/
theorem Width.bits_lt (w : Width) (n : w.Carrier) : w.bits n < 2 ^ 64 := by
  unfold Width.bits
  omega

/-- **A scalar is the one of its content.** -/
theorem Scalar.ofPayload?_payload (s : Scalar) (c : s.Carrier) :
    s.ofPayload? (s.payload c) = some c := by
  cases s with
  | text =>
    show String.fromUTF8? c.toByteArray = some c
    unfold String.fromUTF8?
    rw [dif_pos c.isValidUTF8]
    rfl
  | flag => cases c <;> rfl
  | integer w => exact congrArg some (w.ofBits_bits c)
  | choice e => exact congrArg some (Width.ofBits_bits .i32 c)
  | keyword first others => exact dif_pos c.isLt

/-- The content of a scalar is a text, or a number of 64 bits. -/
theorem Scalar.short_payload {s : Scalar} (h : s.Sendable) {c : s.Carrier}
    (hfits : ∀ content, s.payload c = .bytes content → content.length < 2 ^ 64) :
    (s.payload c).Short := by
  cases s with
  | text => exact hfits _ rfl
  | flag => cases c <;> exact Nat.lt_of_sub_pos (by decide)
  | integer w => exact w.bits_lt c
  | choice e => exact Width.bits_lt .i32 c
  | keyword first others => exact Nat.lt_of_le_of_lt (Nat.le_of_lt_succ c.isLt) h

/-! ### Taking fields in -/

section Merging

variable {σ τ : Type} {merge : NumberedField → σ → Option σ}

/-- Fields are merged one after the other. -/
theorem mergeAll_append (parts others : List NumberedField) (x : σ) :
    mergeAll merge (parts ++ others) x = (mergeAll merge parts x).bind (mergeAll merge others) := by
  induction parts generalizing x with
  | nil => rfl
  | cons f parts ih =>
    show ((merge f x).bind fun x => mergeAll merge (parts ++ others) x)
      = ((merge f x).bind fun x => mergeAll merge parts x).bind _
    cases merge f x with
    | none => rfl
    | some x => exact ih x

/-- What is taken into a part of a record is taken into the record. -/
theorem mergeAll_map {merge' : NumberedField → τ → Option τ} (put : σ → τ)
    {parts : List NumberedField}
    (h : ∀ f ∈ parts, ∀ x, merge' f (put x) = (merge f x).map put) (x : σ) :
    mergeAll merge' parts (put x) = (mergeAll merge parts x).map put := by
  induction parts generalizing x with
  | nil => rfl
  | cons f parts ih =>
    obtain ⟨hf, hparts⟩ := List.forall_mem_cons.mp h
    show ((merge' f (put x)).bind fun y => mergeAll merge' parts y)
      = ((merge f x).bind fun x => mergeAll merge parts x).map put
    rw [hf x]
    cases merge f x with
    | none => rfl
    | some x => exact ih hparts x

/-- A list takes in its items one by one. -/
theorem mergeAll_items {add : NumberedField → List σ → Option (List σ)} {content : σ → Payload}
    {number : Nat} {items : List σ}
    (h : ∀ x ∈ items, ∀ before, add (number, content x) before = some (before ++ [x]))
    (before : List σ) :
    mergeAll add ((items.map content).map fun p => (number, p)) before = some (before ++ items) := by
  induction items generalizing before with
  | nil => exact congrArg some (List.append_nil before).symm
  | cons x items ih =>
    obtain ⟨hx, hitems⟩ := List.forall_mem_cons.mp h
    show ((add (number, content x) before).bind fun more => mergeAll add _ more) = _
    rw [hx before]
    show mergeAll add _ (before ++ [x]) = _
    rw [ih hitems, List.append_assoc]
    rfl

end Merging

/-- How a numbered field is taken into a field, whatever its number. -/
abbrev Shape.taking (sh : Shape) (depth : Nat) : NumberedField → sh.Carrier → Option sh.Carrier :=
  fun f x => sh.merge depth f.2 x

/-- How a numbered field is taken into a record whose first field has the given number. -/
abbrev Fields.taking (fs : Fields) (number depth : Nat) :
    NumberedField → fs.Carrier → Option fs.Carrier :=
  fun f record => fs.merge number depth f record

section First

variable {name : String} {sh : Shape} {rest : Fields} {number depth : Nat} {parts : List NumberedField}

/-- Fields with the first number are taken into the first field. -/
theorem mergeAll_first (h : ∀ f ∈ parts, f.1 = number) (x : sh.Carrier) (y : rest.Carrier) :
    mergeAll ((Fields.cons name sh rest).taking number depth) parts (x, y)
      = (mergeAll (sh.taking depth) parts x).map (·, y) := by
  refine mergeAll_map (·, y) (fun f hf x => ?_) x
  show (Fields.cons name sh rest).merge number depth f (x, y) = _
  rw [Fields.merge, if_pos (h f hf)]
  show ((sh.taking depth f x).bind fun value => some (value, y)) = _
  exact Option.map_eq_bind.symm

/-- Fields with other numbers pass by the first field. -/
theorem mergeAll_others (h : ∀ f ∈ parts, f.1 ≠ number) (x : sh.Carrier) (y : rest.Carrier) :
    mergeAll ((Fields.cons name sh rest).taking number depth) parts (x, y)
      = (mergeAll (rest.taking (number + 1) depth) parts y).map (x, ·) := by
  refine mergeAll_map (x, ·) (fun f hf y => ?_) y
  show (Fields.cons name sh rest).merge number depth f (x, y) = _
  rw [Fields.merge, if_neg (h f hf)]
  show ((rest.taking (number + 1) depth f y).bind fun more => some (x, more)) = _
  exact Option.map_eq_bind.symm

end First

/-! ### The numbered fields of a record -/

/-- The numbered fields that stand for one field. -/
def Shape.parts (sh : Shape) (number : Nat) (c : sh.Carrier) : List NumberedField :=
  (sh.payloads c).map fun p => (number, p)

/-- The numbered fields of a record whose first field has the given number. -/
def Fields.parts : (fs : Fields) → Nat → fs.Carrier → List NumberedField
  | .nil, _, _ => []
  | .cons _ sh rest, number, c => sh.parts number c.1 ++ rest.parts (number + 1) c.2

/-- A field is written once for each of its payloads. -/
theorem written_shapeParts (sh : Shape) (number : Nat) (c : sh.Carrier) :
    written (sh.parts number c) = (sh.payloads c).flatMap (writeField number) :=
  List.flatMap_map ..

/-- **A record is written as its numbered fields.** -/
theorem encode_eq (fs : Fields) (number : Nat) (c : fs.Carrier) :
    fs.encode number c = written (fs.parts number c) := by
  induction fs using Fields.induct generalizing number with
  | nil => rfl
  | cons name sh rest ih =>
    show (sh.payloads c.1).flatMap (writeField number) ++ rest.encode (number + 1) c.2
      = written (sh.parts number c.1 ++ rest.parts (number + 1) c.2)
    rw [written_append, written_shapeParts, ih (number + 1) c.2]

/-- The fields of a record have the numbers from the given one on. -/
theorem number_of_mem_parts {fs : Fields} {number : Nat} {c : fs.Carrier} {f : NumberedField}
    (h : f ∈ fs.parts number c) : number ≤ f.1 ∧ f.1 < number + fs.names.length := by
  induction fs using Fields.induct generalizing number with
  | nil => cases h
  | cons name sh rest ih =>
    show number ≤ f.1 ∧ f.1 < number + (rest.names.length + 1)
    rcases List.mem_append.mp h with hown | hrest
    · obtain ⟨p, -, rfl⟩ := List.mem_map.mp hown
      exact ⟨Nat.le_refl _, Nat.lt_add_of_pos_right (Nat.succ_pos _)⟩
    · have hbounds := ih hrest
      omega

/-- A content is no longer than what it is a part of. -/
theorem length_le_of_mem_parts {parts : List NumberedField} {number : Nat} {content : Bytes}
    (h : (number, Payload.bytes content) ∈ parts) : content.length ≤ (written parts).length := by
  obtain ⟨before, after, rfl⟩ := List.append_of_mem h
  rw [written_append, written_cons]
  simp only [writeField, List.length_append]
  omega

/-- The contents of a field have lengths of 64 bits if their bytes do; its numbers always do. -/
theorem short_payloads {sh : Shape} (h : sh.Sendable) {c : sh.Carrier}
    (hfits : ∀ content, .bytes content ∈ sh.payloads c → content.length < 2 ^ 64) :
    ∀ p ∈ sh.payloads c, p.Short := by
  intro p hp
  -- A number is short whatever it is; the contents of bytes are what is bounded.
  cases sh with
  | one s d =>
    unfold Shape.payloads at hp hfits
    split at hp
    · cases hp
    · next hd =>
      rw [if_neg hd] at hfits
      obtain rfl := List.mem_singleton.mp hp
      exact Scalar.short_payload h fun content heq => hfits content (heq ▸ List.mem_singleton_self _)
  | many s d =>
    obtain ⟨item, hitem, rfl⟩ := List.mem_map.mp hp
    exact Scalar.short_payload h.1 fun content heq => hfits content (heq ▸ hp)
  | maybe title fs =>
    cases c with
    | none => cases hp
    | some c =>
      obtain rfl := List.mem_singleton.mp hp
      exact hfits _ hp
  | each title fs =>
    obtain ⟨item, hitem, rfl⟩ := List.mem_map.mp hp
    exact hfits _ hp
  | group title fs =>
    obtain rfl := List.mem_singleton.mp hp
    exact hfits _ hp

/-- **The numbered fields of a record can be written**, if they take fewer than `2 ^ 64` bytes. -/
theorem legible_parts {fs : Fields} (h : fs.Sendable) {number : Nat} (hlow : 0 < number)
    (hhigh : number + fs.names.length ≤ 2 ^ 29) {c : fs.Carrier}
    (hfits : (written (fs.parts number c)).length < 2 ^ 64) : ∀ f ∈ fs.parts number c, Legible f := by
  induction fs using Fields.induct generalizing number with
  | nil =>
    intro f hf
    cases hf
  | cons name sh rest ih =>
    intro f hf
    have hbounds := number_of_mem_parts hf
    refine ⟨by omega, by omega, ?_⟩
    rcases List.mem_append.mp hf with hown | hrest
    · obtain ⟨p, hp, rfl⟩ := List.mem_map.mp hown
      refine short_payloads h.2.1 (fun content hcontent => ?_) p hp
      have hpart : (number, Payload.bytes content) ∈ (Fields.cons name sh rest).parts number c :=
        List.mem_append_left _ (List.mem_map_of_mem hcontent)
      exact Nat.lt_of_le_of_lt (length_le_of_mem_parts hpart) hfits
    · have hmore : number + 1 + rest.names.length ≤ 2 ^ 29 := by
        change number + (rest.names.length + 1) ≤ 2 ^ 29 at hhigh
        omega
      have hless : (written (rest.parts (number + 1) c.2)).length < 2 ^ 64 := by
        have hall : written ((Fields.cons name sh rest).parts number c)
            = written (sh.parts number c.1) ++ written (rest.parts (number + 1) c.2) :=
          written_append ..
        rw [hall, List.length_append] at hfits
        omega
      exact (ih h.2.2 (Nat.succ_pos _) hmore hless f hrest).2.2

/-- The bytes of a record are cut into its numbered fields. -/
theorem fields?_encode {fs : Fields} (h : fs.Sendable) {depth : Nat} (hdepth : 0 < depth)
    {c : fs.Carrier} (hfits : (fs.encode 1 c).length < 2 ^ 64) :
    fields? depth (fs.encode 1 c) = some (fs.parts 1 c) := by
  rw [encode_eq] at hfits ⊢
  exact fields?_written (legible_parts h Nat.one_pos h.numbers hfits) hdepth

/-! ### Taking in what is written -/

/-- The record that a byte sequence stands for. -/
def Fields.decode? (fs : Fields) (depth : Nat) (bs : Bytes) : Option fs.Carrier :=
  (fields? depth bs).bind fun parts => mergeAll (fs.taking 1 depth) parts fs.default

/-- A record that may be missing is decoded from the bytes of its field. -/
theorem merge_maybe (title : String) (fs : Fields) (depth : Nat) (bs : Bytes) :
    (Shape.maybe title fs).merge (depth + 1) (.bytes bs) none = (fs.decode? depth bs).map some := by
  rw [Shape.merge, Fields.decode?]
  cases fields? depth bs with
  | none => rfl
  | some parts => exact Option.map_eq_bind.symm

/-- A record of a list is decoded from the bytes of its field and added behind those before. -/
theorem merge_each (title : String) (fs : Fields) (depth : Nat) (bs : Bytes)
    (before : List fs.Carrier) :
    (Shape.each title fs).merge (depth + 1) (.bytes bs) before
      = (fs.decode? depth bs).map fun record => before ++ [record] := by
  rw [Shape.merge, Fields.decode?]
  cases fields? depth bs with
  | none => rfl
  | some parts => exact Option.map_eq_bind.symm

/-- A record that is always there is decoded from the bytes of its field. -/
theorem merge_group (title : String) (fs : Fields) (depth : Nat) (bs : Bytes) :
    (Shape.group title fs).merge (depth + 1) (.bytes bs) fs.default = fs.decode? depth bs :=
  rfl

/-- The bytes of a record are read as the record if its numbered fields are taken in as the record. -/
theorem decode?_encode {fs : Fields} (h : fs.Sendable) {depth : Nat} (hdepth : fs.height < depth)
    {c : fs.Carrier} (hfits : (fs.encode 1 c).length < 2 ^ 64)
    (hparts : (written (fs.parts 1 c)).length < 2 ^ 64 →
      mergeAll (fs.taking 1 depth) (fs.parts 1 c) fs.default = some c) :
    fs.decode? depth (fs.encode 1 c) = some c := by
  rw [Fields.decode?, fields?_encode h (Nat.zero_lt_of_lt hdepth) hfits]
  exact hparts (encode_eq fs 1 c ▸ hfits)

mutual

/-- **A field takes in what is written for it**, starting from its default. -/
theorem merge_shapeParts : (sh : Shape) → sh.Sendable → (number depth : Nat) → sh.height < depth →
    (c : sh.Carrier) → (written (sh.parts number c)).length < 2 ^ 64 →
    mergeAll (sh.taking depth) (sh.parts number c) sh.default = some c
  | .one s d, _, number, depth, _, c, _ => by
    -- A default is not written, and is there without being read.
    by_cases hd : c = d
    · have hparts : (Shape.one s d).parts number c = [] := by
        unfold Shape.parts Shape.payloads
        rw [if_pos hd]
        rfl
      rw [hparts]
      exact congrArg some hd.symm
    · have hparts : (Shape.one s d).parts number c = [(number, s.payload c)] := by
        unfold Shape.parts Shape.payloads
        rw [if_neg hd]
        rfl
      rw [hparts]
      show ((Shape.one s d).merge depth (s.payload c) d).bind some = some c
      rw [Shape.merge, s.ofPayload?_payload]
      rfl
  | .many s d, h, number, depth, _, cs, _ => by
    have hitem : ∀ c ∈ cs, ∀ before, (Shape.many s d).merge depth (s.payload c) before
        = some (before ++ [c]) := by
      intro c _ before
      rw [Shape.merge, s.ofPayload?_payload]
      rfl
    -- Items are added behind those before, which only gives the list itself if the default is empty.
    have hempty : (Shape.many s d).default = [] := List.eq_nil_of_length_eq_zero h.2
    rw [hempty]
    exact mergeAll_items hitem []
  | .maybe _ _, _, _, _, _, none, _ => rfl
  | .maybe title fs, h, number, depth + 1, hdepth, some c, hfits => by
    -- One level of depth is spent on entering the record; its bytes are a part of what is bounded.
    have hlevels : fs.height < depth := Nat.lt_of_succ_lt_succ hdepth
    have hless : (fs.encode 1 c).length < 2 ^ 64 :=
      Nat.lt_of_le_of_lt (length_le_of_mem_parts (List.mem_singleton_self _)) hfits
    have hrecord := decode?_encode h hlevels hless (merge_parts fs h 1 depth hlevels c)
    show (Shape.merge (.maybe title fs) (depth + 1) (.bytes (fs.encode 1 c)) none).bind some = _
    rw [merge_maybe, hrecord]
    rfl
  | .each title fs, h, number, depth + 1, hdepth, cs, hfits => by
    have hlevels : fs.height < depth := by
      change fs.height + 2 < depth + 1 at hdepth
      omega
    have hitem : ∀ c ∈ cs, ∀ before, (Shape.each title fs).merge (depth + 1) (.bytes (fs.encode 1 c))
        before = some (before ++ [c]) := by
      intro c hc before
      -- Each record of the list is no longer than the bytes of all.
      have hpart : (number, Payload.bytes (fs.encode 1 c)) ∈ (Shape.each title fs).parts number cs :=
        List.mem_map_of_mem (List.mem_map_of_mem hc)
      have hless : (fs.encode 1 c).length < 2 ^ 64 :=
        Nat.lt_of_le_of_lt (length_le_of_mem_parts hpart) hfits
      have hrecord := decode?_encode h hlevels hless (merge_parts fs h 1 depth hlevels c)
      rw [merge_each, hrecord]
      rfl
    exact mergeAll_items hitem []
  | .group title fs, h, number, depth + 1, hdepth, c, hfits => by
    have hlevels : fs.height < depth := Nat.lt_of_succ_lt_succ hdepth
    have hless : (fs.encode 1 c).length < 2 ^ 64 :=
      Nat.lt_of_le_of_lt (length_le_of_mem_parts (List.mem_singleton_self _)) hfits
    have hrecord := decode?_encode h hlevels hless (merge_parts fs h 1 depth hlevels c)
    show (Shape.merge (.group title fs) (depth + 1) (.bytes (fs.encode 1 c)) fs.default).bind some = _
    rw [merge_group, hrecord]
    rfl

/-- **A record takes in what is written for it**, starting from its defaults. -/
theorem merge_parts : (fs : Fields) → fs.Sendable → (number depth : Nat) → fs.height < depth →
    (c : fs.Carrier) → (written (fs.parts number c)).length < 2 ^ 64 →
    mergeAll (fs.taking number depth) (fs.parts number c) fs.default = some c
  | .nil, _, _, _, _, _, _ => rfl
  | .cons name sh rest, h, number, depth, hdepth, c, hfits => by
    obtain ⟨-, hshape, hrest⟩ := h
    obtain ⟨hshapeDepth, hrestDepth⟩ := Nat.max_lt.mp hdepth
    have hall : written ((Fields.cons name sh rest).parts number c)
        = written (sh.parts number c.1) ++ written (rest.parts (number + 1) c.2) :=
      written_append ..
    rw [hall, List.length_append] at hfits
    have hfirst := merge_shapeParts sh hshape number depth hshapeDepth c.1 (by omega)
    have hmore := merge_parts rest hrest (number + 1) depth hrestDepth c.2 (by omega)
    have hown : ∀ f ∈ sh.parts number c.1, f.1 = number := by
      intro f hf
      obtain ⟨p, -, rfl⟩ := List.mem_map.mp hf
      rfl
    have hothers : ∀ f ∈ rest.parts (number + 1) c.2, f.1 ≠ number := by
      intro f hf
      have hnumber := number_of_mem_parts hf
      omega
    -- The first field takes in all that have its number, and all others pass it by.
    show mergeAll _ (sh.parts number c.1 ++ rest.parts (number + 1) c.2) (sh.default, rest.default) = _
    rw [mergeAll_append, mergeAll_first hown, hfirst]
    show mergeAll _ (rest.parts (number + 1) c.2) (c.1, rest.default) = _
    rw [mergeAll_others hothers, hmore]
    rfl

end

/-! ### Structures -/

variable {α : Type} [Record α]

/-- **A record is read back from its wire form.** -/
theorem ofWire?_of_sendable (h : (Record.fields α).Sendable)
    (hdepth : (Record.fields α).height < nestingLimit) {a : α} (hfits : (toWire a).length < 2 ^ 64) :
    ofWire? α (toWire a) = some a := by
  have hrecord := decode?_encode h hdepth hfits
    (merge_parts (Record.fields α) h 1 nestingLimit hdepth (Record.unpack a))
  have hread : ofWire? α (toWire a)
      = ((Record.fields α).decode? nestingLimit (toWire a)).map Record.pack := by
    unfold ofWire? Fields.decode?
    cases fields? nestingLimit (toWire a) with
    | none => rfl
    | some parts => exact Option.map_eq_bind.symm
  rw [hread, toWire, hrecord]
  exact congrArg some (Record.pack_unpack a)

end Rebac.Record
