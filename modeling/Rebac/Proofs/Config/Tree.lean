import Rebac.Config.Tree
import Mathlib.Data.List.Basic

namespace Rebac.Config.Tree

/-!
# One tree over another

What stands under a name after one tree of given settings is laid over another.

* `Orderly` — the entries of all tables are in ascending order of their names, so that each name stands
  there once; `orderly_merge`, `orderly_ofToml` keep it.
* `layered` — what becomes of two trees under one name; `find?_mergeEntries` says that **this is what
  stands under each name of two tables**.
-/

/-! ### Entries in ascending order -/

/-- The names of entries are in ascending order. -/
def Ascending (entries : List (String × Tree)) : Prop :=
  (entries.map (·.1)).Pairwise (· < ·)

mutual

/-- The entries of all tables in a tree are in ascending order. -/
def Orderly : Tree → Prop
  | leaf _ _ => True
  | list _ items => ItemsOrderly items
  | table _ entries => Ascending entries ∧ EntriesOrderly entries

def ItemsOrderly : List Tree → Prop
  | [] => True
  | t :: rest => t.Orderly ∧ ItemsOrderly rest

def EntriesOrderly : List (String × Tree) → Prop
  | [] => True
  | (_, t) :: rest => t.Orderly ∧ EntriesOrderly rest

end

variable {entries base upper : List (String × Tree)} {items : List Tree} {t under : Tree}
  {name other : String} {source : Source}

/-- A list is orderly exactly if each of its items is. -/
theorem itemsOrderly_iff : ItemsOrderly items ↔ ∀ t ∈ items, t.Orderly := by
  induction items with
  | nil => simp [ItemsOrderly]
  | cons t rest ih => simp [ItemsOrderly, ih]

/-- The entries of a table are orderly exactly if each of their values is. -/
theorem entriesOrderly_iff : EntriesOrderly entries ↔ ∀ e ∈ entries, e.2.Orderly := by
  induction entries with
  | nil => simp [EntriesOrderly]
  | cons e rest ih => simp [EntriesOrderly, ih]

/-- Putting an entry into a table brings in no other entry. -/
theorem mem_put {e : String × Tree} (h : e ∈ put name t entries) : e = (name, t) ∨ e ∈ entries := by
  induction entries with
  | nil => simpa [put] using h
  | cons f rest ih =>
    unfold put at h
    split at h
    · next heq =>
      rcases List.mem_cons.mp h with rfl | h
      · exact .inl (by rw [heq])
      · exact .inr (List.mem_cons_of_mem _ h)
    · split at h
      · simpa using h
      · rcases List.mem_cons.mp h with rfl | h
        · exact .inr List.mem_cons_self
        · exact (ih h).imp_right (List.mem_cons_of_mem _)

/-- After an entry was put its name has the new value, and every other name the one it had. -/
theorem find?_put : find? other (put name t entries)
    = if name = other then some t else find? other entries := by
  induction entries with
  | nil => simp [put, find?]
  | cons f rest ih =>
    unfold put
    split
    · next heq => by_cases h : f.1 = other <;> simp [find?, heq, h]
    · next hne =>
      split
      · rfl
      · by_cases h : f.1 = other
        · have hother : name ≠ other := fun hname => hne (hname.trans h.symm)
          simp [find?, h, hother]
        · simp [find?, h, ih]

/-- Entries stay in the order of their names when another one is put. -/
theorem ascending_put (h : Ascending entries) : Ascending (put name t entries) := by
  induction entries with
  | nil => simp [put, Ascending]
  | cons f rest ih =>
    obtain ⟨hfirst, hrest⟩ := List.pairwise_cons.mp h
    unfold put
    split
    · next heq => exact h
    · next hne =>
      split
      · next hlt =>
        refine List.pairwise_cons.mpr ⟨?_, h⟩
        intro n hn
        rcases List.mem_cons.mp hn with rfl | hn
        · exact hlt
        · exact String.lt_trans hlt (hfirst n hn)
      · next hge =>
        refine List.pairwise_cons.mpr ⟨?_, ih hrest⟩
        intro n hn
        obtain ⟨e, he, rfl⟩ := List.mem_map.mp hn
        rcases mem_put he with rfl | he
        · -- The name neither is the first one nor stands before it.
          have hle : f.1 ≤ name := String.not_lt.mp hge
          exact String.not_le.mp fun hback => hne (String.le_antisymm hback hle)
        · exact hfirst _ (List.mem_map_of_mem he)

/-- A tree under a name keeps a table orderly. -/
theorem orderly_put (h : Ascending entries ∧ EntriesOrderly entries) (ht : t.Orderly) :
    Ascending (put name t entries) ∧ EntriesOrderly (put name t entries) := by
  refine ⟨ascending_put h.1, entriesOrderly_iff.mpr fun e he => ?_⟩
  rcases mem_put he with rfl | he
  · exact ht
  · exact entriesOrderly_iff.mp h.2 e he

/-- What stands under a name is one of the entries. -/
theorem mem_of_find? (h : find? name entries = some t) : (name, t) ∈ entries := by
  induction entries with
  | nil => cases h
  | cons e rest ih =>
    unfold find? at h
    split at h
    · next heq =>
      cases h
      rw [← heq]
      exact List.mem_cons_self
    · exact List.mem_cons_of_mem _ (ih h)

/-- In ascending order each name stands once. -/
theorem find?_of_ascending_cons {e : String × Tree} (h : Ascending (e :: entries)) :
    find? e.1 entries = none := by
  have hnew := (List.pairwise_cons.mp h).1
  cases hfind : find? e.1 entries with
  | none => rfl
  | some found =>
    have hlt := hnew e.1 (List.mem_map.mpr ⟨_, mem_of_find? hfind, rfl⟩)
    exact absurd hlt (String.lt_irrefl _)

/-! ### Merging -/

/-- What becomes of a tree under a name and one over it, if either is there. -/
def layered : Option Tree → Option Tree → Option Tree
  | some under, some t => some (under.merge t)
  | none, some t => some t
  | under, none => under

@[simp] theorem layered_none_left (t : Option Tree) : layered none t = t := by
  cases t <;> rfl

@[simp] theorem layered_none_right (under : Option Tree) : layered under none = under := by
  cases under <;> rfl

/-- **What stands under a name after a table was laid over another.** -/
theorem find?_mergeEntries (h : Ascending upper) :
    find? name (mergeEntries base upper) = layered (find? name base) (find? name upper) := by
  induction upper generalizing base with
  | nil => rw [mergeEntries]; cases find? name base <;> rfl
  | cons e rest ih =>
    have hrest := (List.pairwise_cons.mp h).2
    rw [mergeEntries, ih hrest, find?_put]
    by_cases heq : e.1 = name
    · have honce : find? name rest = none := heq ▸ find?_of_ascending_cons h
      rw [if_pos heq, honce, find?, if_pos heq, ← heq]
      cases find? e.1 base <;> rfl
    · rw [if_neg heq, find?, if_neg heq]

mutual

/-- A tree stays orderly if an orderly one is laid over it. -/
theorem orderly_merge : (under t : Tree) → under.Orderly → t.Orderly → (under.merge t).Orderly
  | _, .leaf source value, _, h => by rw [merge]; exact h
  | _, .list source items, _, h => by rw [merge]; exact h
  | .table _ base, .table source entries, hunder, h => by
    rw [merge]
    exact orderly_mergeEntries base entries hunder h
  | .leaf _ _, .table source entries, _, h => h
  | .list _ _, .table source entries, _, h => h

/-- Laying orderly entries over orderly ones gives orderly ones. -/
theorem orderly_mergeEntries : (base upper : List (String × Tree)) →
    Ascending base ∧ EntriesOrderly base → Ascending upper ∧ EntriesOrderly upper →
      Ascending (mergeEntries base upper) ∧ EntriesOrderly (mergeEntries base upper)
  | base, [], hbase, _ => by rw [mergeEntries]; exact hbase
  | base, (name, t) :: rest, hbase, h => by
    rw [mergeEntries]
    have hrest : Ascending rest ∧ EntriesOrderly rest := ⟨(List.pairwise_cons.mp h.1).2, h.2.2⟩
    refine orderly_mergeEntries _ rest (orderly_put hbase ?_) hrest
    cases hfind : find? name base with
    | none => exact h.2.1
    | some under =>
      have hunder := entriesOrderly_iff.mp hbase.2 _ (mem_of_find? hfind)
      exact orderly_merge under t hunder h.2.1

end

/-! ### Trees of files -/

mutual

/-- The tree of a file is orderly. -/
theorem orderly_ofToml (source : Source) : (v : Toml.Value) → (ofToml source v).Orderly
  | .text _ | .integer _ | .float _ | .flag _ => trivial
  | .date _ => ⟨List.pairwise_singleton _ _, trivial, trivial⟩
  | .array items => orderly_ofItems source items
  | .table entries => orderly_ofEntries source [] entries ⟨List.Pairwise.nil, trivial⟩

/-- What a list of TOML values says is orderly. -/
theorem orderly_ofItems (source : Source) : (vs : List Toml.Value) →
    ItemsOrderly (ofItems source vs)
  | [] => trivial
  | v :: rest => ⟨orderly_ofToml source v, orderly_ofItems source rest⟩

/-- What the entries of a TOML table say is orderly, however often a name is repeated. -/
theorem orderly_ofEntries (source : Source) (done : List (String × Tree)) :
    (entries : List (String × Toml.Value)) → Ascending done ∧ EntriesOrderly done →
      Ascending (ofEntries source done entries) ∧ EntriesOrderly (ofEntries source done entries)
  | [], h => h
  | (_, v) :: rest, h => orderly_ofEntries source _ rest (orderly_put h (orderly_ofToml source v))

end

end Rebac.Config.Tree
