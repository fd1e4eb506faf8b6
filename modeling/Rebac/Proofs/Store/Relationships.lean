import Rebac.Store.Basic

namespace Rebac.Store

open Rebac.Message

/-!
# Writing and deleting relationships

What one write or delete does to each part of the store.

* `unstored` — the relationships of a list that a tenant does not store yet, each where it occurs
  first; `fresh_eq` says that a write adds just these.
* `unstored_of_stored`, `unstored_of_nodup` — a list of which all is stored, or nothing.
* `tuples_write`, `tuples_delete` — the relationships of every tenant afterwards.
* `changeSet`, `log_write`, `log_delete` — what is published: the changes, unless there are none.
* `unstored_append` — a list that is written in two parts adds the same as one that is written at
  once.
-/

variable {s : Store} {tenant : String}

/-! ### Relationships that are not stored yet -/

/-- The relationships of a list that a tenant does not store yet, each where it occurs first. -/
def unstored (s : Store) (tenant : String) (tuples : List Tuple) : List Tuple :=
  (tuples.filter (· ∉ s.tuples tenant)).eraseDups

/-- What is new of a list is what is not stored, each relationship once. -/
theorem fresh_eq (stored l : List Tuple) :
    fresh stored l = (l.filter (· ∉ stored)).eraseDups := by
  induction l generalizing stored with
  | nil => rfl
  | cons t rest ih =>
    by_cases h : t ∈ stored
    · rw [fresh, if_pos h, ih, List.filter_cons_of_neg (by simpa using h)]
    · -- What is taken counts as stored from then on, so later copies of it are left out.
      rw [fresh, if_neg h, ih, List.filter_cons_of_pos (by simpa using h), List.eraseDups_cons,
        List.filter_filter]
      congr 3
      funext u
      by_cases hu : u = t <;> simp [hu]

/-- A relationship is new exactly if it is in the list and not stored. -/
theorem mem_fresh {stored l : List Tuple} {t : Tuple} :
    t ∈ fresh stored l ↔ t ∈ l ∧ t ∉ stored := by
  rw [fresh_eq, List.mem_eraseDups, List.mem_filter]
  simp

/-- What is new has no repetitions. -/
theorem nodup_fresh (stored l : List Tuple) : (fresh stored l).Nodup := by
  induction l generalizing stored with
  | nil => exact List.nodup_nil
  | cons t rest ih =>
    by_cases h : t ∈ stored
    · rw [fresh, if_pos h]
      exact ih stored
    · rw [fresh, if_neg h, List.nodup_cons]
      refine ⟨fun ht => ?_, ih _⟩
      exact (mem_fresh.mp ht).2 (by simp)

/-- Only what is stored matters, not the order. -/
theorem fresh_congr {stored stored' : List Tuple} (h : ∀ t, t ∈ stored ↔ t ∈ stored')
    (l : List Tuple) : fresh stored l = fresh stored' l := by
  rw [fresh_eq, fresh_eq]
  simp only [h]

/-- What is new of two lists is what is new of the first, and of the second beyond it. -/
theorem fresh_append (stored a b : List Tuple) :
    fresh stored (a ++ b) = fresh stored a ++ fresh (stored ++ fresh stored a) b := by
  induction a generalizing stored with
  | nil => simp [fresh]
  | cons t rest ih =>
    by_cases h : t ∈ stored
    · rw [List.cons_append, fresh, if_pos h, fresh, if_pos h, ih]
    · -- The two sides store the first one at different places, which does not matter.
      rw [List.cons_append, fresh, if_neg h, fresh, if_neg h, ih, List.cons_append]
      congr 2
      exact fresh_congr (by simp [or_left_comm]) b

/-- What a write adds has no repetitions. -/
theorem nodup_unstored (s : Store) (tenant : String) (tuples : List Tuple) :
    (s.unstored tenant tuples).Nodup := by
  rw [unstored, ← fresh_eq]
  exact nodup_fresh _ _

/-- A write adds what it is given and what is not stored yet. -/
theorem mem_unstored {tuples : List Tuple} {t : Tuple} :
    t ∈ s.unstored tenant tuples ↔ t ∈ tuples ∧ t ∉ s.tuples tenant := by
  rw [unstored, ← fresh_eq, mem_fresh]

/-- Nothing is added of what is stored. -/
theorem unstored_of_stored {tuples : List Tuple} (h : ∀ t ∈ tuples, t ∈ s.tuples tenant) :
    s.unstored tenant tuples = [] := by
  refine List.eq_nil_iff_forall_not_mem.mpr fun t ht => ?_
  obtain ⟨hlisted, hnew⟩ := mem_unstored.mp ht
  exact hnew (h t hlisted)

/-- A list without repetitions is added as it is if none of it is stored. -/
theorem unstored_of_nodup {tuples : List Tuple} (nodup : tuples.Nodup)
    (h : ∀ t ∈ tuples, t ∉ s.tuples tenant) : s.unstored tenant tuples = tuples := by
  have hfilter : tuples.filter (· ∉ s.tuples tenant) = tuples :=
    List.filter_eq_self.mpr fun t ht => by simpa using h t ht
  rw [unstored, hfilter]
  clear hfilter h
  induction tuples with
  | nil => rfl
  | cons t rest ih =>
    obtain ⟨hfirst, hrest⟩ := List.nodup_cons.mp nodup
    have hothers : rest.filter (fun u => !u == t) = rest :=
      List.filter_eq_self.mpr fun u hu => by simpa using fun heq : u = t => hfirst (heq ▸ hu)
    rw [List.eraseDups_cons, hothers, ih hrest]

/-! ### The parts of the store -/

@[simp] theorem tuples_commit (s : Store) (tenant tenant' : String) (tuples : List Tuple)
    (changes : List DataChange) :
    (s.commit tenant tuples changes).2.tuples tenant'
      = if tenant = tenant' then tuples else s.tuples tenant' := by
  show ((s.tuplesOf.set tenant tuples).get? tenant').getD [] = _
  rw [Table.get?_set]
  split <;> rfl

/-- What is put into the log for some changes of a tenant: nothing if there are none. -/
def changeSet (tenant token : String) (kind : ChangeKind) (tuples : List Tuple) :
    List (String × DataChanges) :=
  if tuples = [] then [] else [(tenant, ⟨token, tuples.map fun t => ⟨kind, some t⟩⟩)]

/-- A commit publishes its changes under the next token, and nothing if there are none. -/
theorem log_commit (s : Store) (tenant : String) (tuples : List Tuple) (kind : ChangeKind)
    (changed : List Tuple) :
    (s.commit tenant tuples (changed.map fun t => ⟨kind, some t⟩)).2.log.newestFirst
      = changeSet tenant (toString (s.snapshot + 1)) kind changed ++ s.log.newestFirst := by
  show (s.log.publish tenant ⟨_, changed.map fun t => ⟨kind, some t⟩⟩).newestFirst = _
  unfold Log.publish changeSet
  cases changed <;> rfl

/-! ### Writes -/

/-- A write adds what is not stored behind what is. -/
theorem write_eq (s : Store) (tenant : String) (tuples : List Tuple) :
    s.write tenant tuples
      = s.commit tenant (s.tuples tenant ++ s.unstored tenant tuples)
          ((s.unstored tenant tuples).map fun t => ⟨.create, some t⟩) := by
  show s.commit tenant (s.tuples tenant ++ fresh (s.tuples tenant) tuples)
      ((fresh (s.tuples tenant) tuples).map fun t => ⟨.create, some t⟩) = _
  rw [fresh_eq]
  rfl

/-- A write adds to its own tenant what is not stored yet, and leaves all others alone. -/
theorem tuples_write (s : Store) (tenant tenant' : String) (tuples : List Tuple) :
    (s.write tenant tuples).2.tuples tenant'
      = if tenant = tenant' then s.tuples tenant' ++ s.unstored tenant' tuples
        else s.tuples tenant' := by
  rw [write_eq, tuples_commit]
  split
  · next h => rw [h]
  · rfl

/-- A write publishes the creation of what it adds. -/
theorem log_write (s : Store) (tenant : String) (tuples : List Tuple) :
    (s.write tenant tuples).2.log.newestFirst
      = changeSet tenant (toString (s.snapshot + 1)) .create (s.unstored tenant tuples)
          ++ s.log.newestFirst := by
  rw [write_eq, log_commit]

/-- **A list may be written in parts.** What the second part adds is what the first has left. -/
theorem unstored_append (s : Store) (tenant : String) (a b : List Tuple) :
    s.unstored tenant (a ++ b)
      = s.unstored tenant a ++ (s.write tenant a).2.unstored tenant b := by
  have hstored : (s.write tenant a).2.tuples tenant
      = s.tuples tenant ++ fresh (s.tuples tenant) a := by
    rw [tuples_write, if_pos rfl, unstored, ← fresh_eq]
  simp only [unstored, ← fresh_eq, hstored]
  exact fresh_append _ a b

/-! ### Deletes -/

/-- A delete removes what its filter selects of its own tenant, and leaves all others alone. -/
theorem tuples_delete (s : Store) (tenant tenant' : String) (filter : TupleFilter) :
    (s.delete tenant filter).2.tuples tenant'
      = if tenant = tenant' then (s.tuples tenant').filter (fun t => !selects filter t)
        else s.tuples tenant' := by
  unfold delete
  rw [tuples_commit]
  split
  · next h => rw [h]
  · rfl

/-- A delete publishes the removal of what its filter selects. -/
theorem log_delete (s : Store) (tenant : String) (filter : TupleFilter) :
    (s.delete tenant filter).2.log.newestFirst
      = changeSet tenant (toString (s.snapshot + 1)) .delete
          ((s.tuples tenant).filter (selects filter)) ++ s.log.newestFirst := by
  unfold delete
  rw [log_commit]

end Rebac.Store
