import Mathlib.Data.List.Dedup
import Rebac.Proofs.Store.Run

namespace Rebac.Store

open Rebac.Message

/-!
# Contents, order and change log of a run

What a tenant stores after a run, told from the operations of the run alone, and how the counter and
the log keep in step with it.

* `lastWritten` — whether the last operation that concerned a relationship was a write.
* `insertions` — the relationships that became stored, in the order in which they did.
* `mem_after_iff`, `tuples_after` — what is stored is what was last written, in the order of its last
  insertion.
* `ordered_set_with_log` — these together with the counter and the log.
-/

/-! ### What is stored -/

/-- Whether an operation concerns a relationship of a tenant: it writes it, or removes it if it is
    stored. -/
def concerns (tenant : String) (t : Tuple) (h : Store × Operation) : Bool :=
  h.2.writes tenant t || h.2.removes h.1 tenant t

/-- Whether the last operation that concerned a relationship of a tenant was a write. -/
def lastWritten (tenant : String) (t : Tuple) (past : List (Store × Operation)) : Bool :=
  (past.filter (concerns tenant t)).getLast?.any fun h => h.2.writes tenant t

/-- One more operation decides, if it writes the relationship or removes it. -/
theorem lastWritten_append (tenant : String) (t : Tuple) (past : List (Store × Operation))
    (h : Store × Operation) :
    lastWritten tenant t (past ++ [h])
      = (h.2.writes tenant t || lastWritten tenant t past && !h.2.removes h.1 tenant t) := by
  unfold lastWritten
  rw [List.filter_append]
  cases hw : h.2.writes tenant t with
  | true => simp [concerns, hw]
  | false =>
    cases hr : h.2.removes h.1 tenant t with
    | true => simp [concerns, hw, hr]
    | false => simp [concerns, hw, hr]

/-- **What is stored is what was last written.** -/
theorem mem_after_iff (now : Int64) (ops : List Operation) (tenant : String) (t : Tuple) :
    t ∈ ((initial now).after ops).tuples tenant
      ↔ lastWritten tenant t ((initial now).history ops) = true := by
  -- On the run from its end: the last operation decides, or leaves things as they were.
  induction ops using List.reverseRecOn with
  | nil => simp [lastWritten, history]
  | append_singleton ops op ih =>
    rw [after_append, after_singleton, mem_perform, history_append]
    show _ ↔ lastWritten tenant t (_ ++ [((initial now).after ops, op)]) = true
    rw [lastWritten_append, Bool.or_eq_true, Bool.and_eq_true, Bool.not_eq_true', ih]

/-! ### The stored order -/

/-- The relationships of a tenant that became stored over a history, in the order in which they
    did. -/
def insertions (tenant : String) (past : List (Store × Operation)) : List Tuple :=
  past.flatMap fun h => h.2.creates h.1 tenant

/-- The last occurrences of an appended list stand behind those of the rest. -/
theorem dedup_append_eq {α : Type} [DecidableEq α] (a b : List α) :
    (a ++ b).dedup = a.dedup.filter (· ∉ b) ++ b.dedup := by
  induction a with
  | nil => rfl
  | cons x rest ih =>
    rw [List.cons_append]
    by_cases hrest : x ∈ rest
    · rw [List.dedup_cons_of_mem (List.mem_append_left b hrest), ih, List.dedup_cons_of_mem hrest]
    · rw [List.dedup_cons_of_notMem hrest]
      by_cases hb : x ∈ b
      · rw [List.dedup_cons_of_mem (List.mem_append_right rest hb), ih,
          List.filter_cons_of_neg (by simpa using hb)]
      · rw [List.dedup_cons_of_notMem (by simp [hrest, hb]), ih,
          List.filter_cons_of_pos (by simpa using hb), List.cons_append]

/-- **The stored order is the order of insertion**: of all insertions the last of each relationship
    counts, if it is still stored. -/
theorem tuples_after (now : Int64) (ops : List Operation) (tenant : String) :
    ((initial now).after ops).tuples tenant
      = (insertions tenant ((initial now).history ops)).dedup.filter
          (· ∈ ((initial now).after ops).tuples tenant) := by
  induction ops using List.reverseRecOn with
  | nil => rfl
  | append_singleton ops op ih =>
    rw [after_append, after_singleton, history_append]
    show _ = (insertions tenant (_ ++ [((initial now).after ops, op)])).dedup.filter _
    generalize hpast : (initial now).history ops = past at ih ⊢
    generalize (initial now).after ops = s at ih ⊢
    have hsplit : insertions tenant (past ++ [(s, op)])
        = insertions tenant past ++ op.creates s tenant := by
      simp [insertions]
    rw [hsplit, dedup_append_eq, List.filter_append, (nodup_creates s op tenant).dedup]
    -- What was just inserted is stored, in that order.
    have hnew : (op.creates s tenant).filter (· ∈ (s.perform op).2.tuples tenant)
        = op.creates s tenant := by
      rw [List.filter_eq_self]
      intro t ht
      rw [tuples_perform]
      simp [ht]
    -- Of the earlier insertions those are left that were stored and have not been removed.
    have hold : ((insertions tenant past).dedup.filter (· ∉ op.creates s tenant)).filter
          (· ∈ (s.perform op).2.tuples tenant)
        = (s.tuples tenant).filter (fun t => !op.removes s tenant t) := by
      rw [ih, List.filter_filter, List.filter_filter]
      apply List.filter_congr
      intro t _
      rw [Bool.eq_iff_iff]
      simp only [Bool.and_eq_true, decide_eq_true_eq, Bool.not_eq_true', mem_perform, mem_creates]
      constructor
      · rintro ⟨hw | ⟨ht, hr⟩, hnot⟩
        · have ht : t ∈ s.tuples tenant := by
            by_contra ht
            exact hnot ⟨hw, ht⟩
          exact ⟨removes_of_writes hw, ht⟩
        · exact ⟨hr, ht⟩
      · rintro ⟨hr, ht⟩
        exact ⟨.inr ⟨ht, hr⟩, fun hcreated => hcreated.2 ht⟩
    rw [hnew, hold, ← tuples_perform]

/-! ### Contents and log in step -/

/-- **The store is an ordered set with an exact change log.** After every run no tenant stores a
    relationship twice, what it stores is what was last written, in the order of insertion, and the
    counter is the number of writes and deletes. The next write or delete answers the next number;
    it publishes under that number exactly the relationships that became stored, or ceased to be
    stored, unless there are none; and nothing else publishes. A list may be written in two parts. -/
theorem ordered_set_with_log (now : Int64) (ops : List Operation) (tenant : String) :
    let s := (initial now).after ops
    let past := (initial now).history ops
    let next := toString (ops.countP Operation.commits + 1)
    -- What is stored, and in which order.
    (s.tuples tenant).Nodup
    ∧ (∀ t, t ∈ s.tuples tenant ↔ lastWritten tenant t past = true)
    ∧ s.tuples tenant = (insertions tenant past).dedup.filter (· ∈ s.tuples tenant)
    ∧ s.headSnapshot = toString (ops.countP Operation.commits)
    -- A write.
    ∧ (∀ tuples,
        let created := s.unstored tenant tuples
        let s' := (s.write tenant tuples).2
        (s.write tenant tuples).1 = next
        ∧ s'.tuples tenant = s.tuples tenant ++ created
        ∧ (∀ t, t ∈ created ↔ t ∈ s'.tuples tenant ∧ t ∉ s.tuples tenant)
        ∧ s'.log.newestFirst = changeSet tenant next .create created ++ s.log.newestFirst)
    -- A delete.
    ∧ (∀ filter,
        let removed := (s.tuples tenant).filter (selects filter)
        let s' := (s.delete tenant filter).2
        (s.delete tenant filter).1 = next
        ∧ s'.tuples tenant = (s.tuples tenant).filter (· ∉ removed)
        ∧ (∀ t, t ∈ removed ↔ t ∈ s.tuples tenant ∧ t ∉ s'.tuples tenant)
        ∧ s'.log.newestFirst = changeSet tenant next .delete removed ++ s.log.newestFirst)
    -- Anything else, and a write in two parts.
    ∧ (∀ op : Operation, op.commits = true ∨ (s.perform op).2.log = s.log)
    ∧ (∀ a b,
        (s.write tenant (a ++ b)).2.tuples tenant
            = ((s.write tenant a).2.write tenant b).2.tuples tenant
        ∧ s.unstored tenant (a ++ b)
            = s.unstored tenant a ++ (s.write tenant a).2.unstored tenant b) := by
  intro s past next
  have hnext : toString (s.snapshot + 1) = next :=
    congrArg (fun n => toString (n + 1)) (snapshot_after now ops)
  refine ⟨nodup_after now ops tenant, mem_after_iff now ops tenant, tuples_after now ops tenant,
    congrArg toString (snapshot_after now ops), ?_, ?_, ?_, ?_⟩
  · intro tuples created s'
    have htuples : s'.tuples tenant = s.tuples tenant ++ created := by
      show (s.write tenant tuples).2.tuples tenant = _
      rw [tuples_write, if_pos rfl]
    refine ⟨hnext, htuples, ?_, ?_⟩
    · intro t
      rw [htuples, List.mem_append]
      constructor
      · intro ht
        exact ⟨.inr ht, (mem_unstored.mp ht).2⟩
      · rintro ⟨hstored | hcreated, hnot⟩
        · exact absurd hstored hnot
        · exact hcreated
    · show (s.write tenant tuples).2.log.newestFirst = _
      rw [log_write, hnext]
  · intro filter removed s'
    have htuples : s'.tuples tenant = (s.tuples tenant).filter (· ∉ removed) := by
      show (s.delete tenant filter).2.tuples tenant = _
      rw [tuples_delete, if_pos rfl]
      apply List.filter_congr
      intro t ht
      simp [removed, ht]
    refine ⟨hnext, htuples, ?_, ?_⟩
    · intro t
      have hsub : t ∈ removed → t ∈ s.tuples tenant := fun ht => (List.mem_filter.mp ht).1
      have hleft : t ∈ s'.tuples tenant ↔ t ∈ s.tuples tenant ∧ t ∉ removed := by
        rw [htuples, List.mem_filter, decide_eq_true_eq]
      rw [hleft]
      constructor
      · intro ht
        exact ⟨hsub ht, fun hkept => hkept.2 ht⟩
      · rintro ⟨hstored, hgone⟩
        by_contra hnot
        exact hgone ⟨hstored, hnot⟩
    · show (s.delete tenant filter).2.log.newestFirst = _
      rw [log_delete, hnext]
  · intro op
    cases hop : op.commits with
    | true => exact .inl rfl
    | false => exact .inr (commit_parts_perform s hop).2
  · intro a b
    -- What the first part stores is not new for the second.
    have happend := unstored_append s tenant a b
    refine ⟨?_, happend⟩
    simp only [tuples_write, if_true, happend, List.append_assoc]

end Rebac.Store
