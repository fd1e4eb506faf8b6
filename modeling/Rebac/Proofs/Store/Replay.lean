import Mathlib.Data.List.Perm.Basic
import Rebac.Proofs.Store.Watched

namespace Rebac.Store

open Rebac.Message

/-!
# Mirrors

Someone who knows the relationships of a tenant and applies all changes that a feed brings keeps a
mirror of them.

* `replay` — what change sets make of a list: a creation appends, a deletion removes.
* `Operation.withdraws`, `Operation.drops` — what an operation removes with and without saying so:
  deletes publish what they remove, the removal of a tenant does not.
* `replay_published` — **the step law of mirrors, over a run**: a mirror has what is stored, and what
  was dropped.
* `mirror_iff_nothing_dropped` — a mirror is exact just if nothing was dropped.
-/

/-! ### Applying changes -/

/-- A list of relationships after a change. -/
def applyChange (stored : List Tuple) (change : DataChange) : List Tuple :=
  match change.tuple with
  | none => stored
  | some t =>
    if change.operation = .create then stored ++ [t]
    else if change.operation = .delete then stored.erase t
    else stored

/-- A list of relationships after some change sets, one change after the other. -/
def replay (stored : List Tuple) (sets : List DataChanges) : List Tuple :=
  (sets.flatMap (·.dataChanges)).foldl applyChange stored

/-- Changes are replayed one set after the other. -/
theorem replay_append (stored : List Tuple) (a b : List DataChanges) :
    replay stored (a ++ b) = replay (replay stored a) b := by
  rw [replay, List.flatMap_append, List.foldl_append]
  rfl

/-- Replaying creations adds them behind what is there. -/
theorem replay_creates (stored created : List Tuple) :
    (created.map fun t => (⟨.create, some t⟩ : DataChange)).foldl applyChange stored
      = stored ++ created := by
  induction created generalizing stored with
  | nil => exact (List.append_nil stored).symm
  | cons t rest ih =>
    have hfirst : applyChange stored ⟨.create, some t⟩ = stored ++ [t] := rfl
    rw [List.map_cons, List.foldl_cons, hfirst, ih, List.append_assoc]
    rfl

/-- Replaying removals takes each of them out once. -/
theorem replay_deletes (stored deleted : List Tuple) :
    (deleted.map fun t => (⟨.delete, some t⟩ : DataChange)).foldl applyChange stored
      = stored.diff deleted := by
  induction deleted generalizing stored with
  | nil => rfl
  | cons t rest ih =>
    have hfirst : applyChange stored ⟨.delete, some t⟩ = stored.erase t := rfl
    rw [List.map_cons, List.foldl_cons, hfirst, ih, List.diff_cons]

/-! ### What an operation says, and what it does not -/

/-- The relationships of a tenant that an operation removes and publishes. -/
def Operation.withdraws (s : Store) (tenant : String) : Operation → List Tuple
  | delete tenant' filter =>
    if tenant' = tenant then (s.tuples tenant).filter (selects filter) else []
  | _ => []

/-- The relationships of a tenant that an operation removes without publishing it: those that go with
    the tenant. -/
def Operation.drops (s : Store) (tenant : String) : Operation → List Tuple
  | deleteTenant id =>
    if id = tenant ∧ (s.registry.find? id).isSome then s.tuples tenant else []
  | _ => []

/-- The change sets of a tenant that stand for some changes of one. -/
theorem ownOf_changeSet (tenant tenant' token : String) (kind : ChangeKind) (tuples : List Tuple) :
    (ownOf tenant (changeSet tenant' token kind tuples)).flatMap (·.dataChanges)
      = if tenant' = tenant then tuples.map fun t => ⟨kind, some t⟩ else [] := by
  by_cases hnone : tuples = []
  · rw [changeSet, if_pos hnone, hnone]
    split <;> rfl
  · rw [changeSet, if_neg hnone]
    by_cases h : tenant' = tenant
    · simp [ownOf, h]
    · simp [ownOf, h]

/-- What a mirror makes of an operation. -/
theorem replay_publishes (s : Store) (op : Operation) (tenant : String) (stored : List Tuple) :
    replay stored (ownOf tenant (op.publishes s))
      = stored.diff (op.withdraws s tenant) ++ op.creates s tenant := by
  cases op with
  | write tenant' tuples =>
    show List.foldl applyChange stored ((ownOf tenant (changeSet tenant' _ _ _)).flatMap _)
      = stored ++ if tenant' = tenant then s.unstored tenant tuples else []
    rw [ownOf_changeSet]
    split
    · next h => rw [replay_creates, h]
    · exact (List.append_nil stored).symm
  | delete tenant' filter =>
    show List.foldl applyChange stored ((ownOf tenant (changeSet tenant' _ _ _)).flatMap _)
      = stored.diff (if tenant' = tenant then (s.tuples tenant).filter (selects filter) else [])
          ++ []
    rw [ownOf_changeSet, List.append_nil]
    split
    · next h => rw [replay_deletes, h]
    · rfl
  | _ => exact (List.append_nil stored).symm

/-- Of what is stored, what is selected goes, and what stands behind it stays. -/
theorem append_diff_filter (p : Tuple → Bool) (stored rest : List Tuple) :
    (stored ++ rest).diff (stored.filter p) = stored.filter (fun t => !p t) ++ rest := by
  induction stored with
  | nil => rfl
  | cons t stored ih =>
    by_cases h : p t = true
    · rw [List.filter_cons_of_pos h, List.filter_cons_of_neg (by simp [h]), List.cons_append,
        List.diff_cons, List.erase_cons_head, ih]
    · have hkept : t ∉ stored.filter p := fun hin => h (List.mem_filter.mp hin).2
      rw [List.filter_cons_of_neg h, List.filter_cons_of_pos (by simpa using h), List.cons_append,
        List.cons_diff_of_not_mem hkept, ih, List.cons_append]

/-- What an operation removes it either publishes, or drops without a word; then nothing is left. -/
theorem withdraws_cases (s : Store) (op : Operation) (tenant : String) :
    op.withdraws s tenant = (s.tuples tenant).filter (op.removes s tenant)
        ∧ op.drops s tenant = []
      ∨ op.withdraws s tenant = [] ∧ op.creates s tenant = []
        ∧ op.drops s tenant = s.tuples tenant ∧ (s.perform op).2.tuples tenant = [] := by
  have hnone : [] = (s.tuples tenant).filter fun _ => false := by simp
  -- A delete publishes what it removes; the removal of a tenant drops all, if there is such a tenant.
  cases op with
  | delete tenant' filter =>
    left
    refine ⟨?_, rfl⟩
    show (if tenant' = tenant then (s.tuples tenant).filter (selects filter) else [])
      = (s.tuples tenant).filter fun t => tenant' = tenant && selects filter t
    by_cases h : tenant' = tenant
    · simp only [h, if_true, decide_true, Bool.true_and]
    · simp only [h, if_false, decide_false, Bool.false_and]
      exact hnone
  | deleteTenant id =>
    by_cases h : id = tenant ∧ (s.registry.find? id).isSome
    · right
      refine ⟨rfl, rfl, if_pos h, ?_⟩
      show (s.settle (s.deleteTenant id)).2.tuples tenant = []
      rw [tuples_deleteTenant, if_pos h]
    · left
      refine ⟨?_, if_neg h⟩
      have hremoves : (decide (id = tenant) && (s.registry.find? id).isSome) = false := by
        simpa using h
      show [] = (s.tuples tenant).filter fun _ => id = tenant && (s.registry.find? id).isSome
      rw [hremoves]
      exact hnone
  | _ => exact .inl ⟨hnone, rfl⟩

variable {s : Store} {op : Operation} {tenant : String} {stored rest : List Tuple}

/-- **The step law of mirrors.** Who has what is stored, and something else besides, has after an
    operation what is stored then, and what was dropped besides. -/
theorem replay_perform (h : stored.Perm (s.tuples tenant ++ rest)) :
    (replay stored (ownOf tenant (op.publishes s))).Perm
      ((s.perform op).2.tuples tenant ++ (rest ++ op.drops s tenant)) := by
  rw [replay_publishes]
  rcases withdraws_cases s op tenant with ⟨hwithdraws, hdrops⟩ | ⟨hwithdraws, hcreates, hdrops, hnone⟩
  · rw [hwithdraws, hdrops, List.append_nil, tuples_perform, List.append_assoc]
    -- A deletion takes a stored copy; what was dropped before stays behind it.
    have hleft := h.diff_right ((s.tuples tenant).filter (op.removes s tenant))
    rw [append_diff_filter] at hleft
    refine (hleft.append_right _).trans ?_
    rw [List.append_assoc]
    exact List.perm_append_comm.append_left _
  · -- Nothing is published, and all that was stored is now dropped.
    rw [hwithdraws, hcreates, hdrops, hnone, List.append_nil]
    exact h.trans List.perm_append_comm

/-- A mirror of what is stored stays one if nothing is dropped. -/
theorem replay_perform_eq (h : op.drops s tenant = []) :
    replay (s.tuples tenant) (ownOf tenant (op.publishes s)) = (s.perform op).2.tuples tenant := by
  rw [replay_publishes]
  rcases withdraws_cases s op tenant with ⟨hwithdraws, -⟩ | ⟨hwithdraws, hcreates, hdrops, hnone⟩
  · have hleft := append_diff_filter (op.removes s tenant) (s.tuples tenant) []
    rw [List.append_nil, List.append_nil] at hleft
    rw [hwithdraws, hleft, tuples_perform]
  · rw [hwithdraws, hcreates, hnone, ← hdrops, h]
    rfl

/-! ### Runs -/

/-- The relationships of a tenant that were dropped over a run. -/
def dropped (s : Store) (tenant : String) (ops : List Operation) : List Tuple :=
  (s.history ops).flatMap fun h => h.2.drops h.1 tenant

theorem dropped_cons (s : Store) (tenant : String) (op : Operation) (ops : List Operation) :
    s.dropped tenant (op :: ops) = op.drops s tenant ++ (s.perform op).2.dropped tenant ops := rfl

/-- Over a run, a mirror has what is stored, and what was dropped besides. -/
theorem replay_published {ops : List Operation} (h : stored.Perm (s.tuples tenant ++ rest)) :
    (replay stored (ownOf tenant (s.published ops))).Perm
      ((s.after ops).tuples tenant ++ (rest ++ s.dropped tenant ops)) := by
  induction ops generalizing s stored rest with
  | nil =>
    show stored.Perm (s.tuples tenant ++ (rest ++ []))
    rw [List.append_nil]
    exact h
  | cons op ops ih =>
    rw [published_cons, ownOf_append, replay_append, dropped_cons, ← List.append_assoc rest]
    exact ih (replay_perform h)

/-- A mirror of what is stored stays one over a run in which nothing is dropped. -/
theorem replay_published_eq {ops : List Operation} (h : s.dropped tenant ops = []) :
    replay (s.tuples tenant) (ownOf tenant (s.published ops)) = (s.after ops).tuples tenant := by
  induction ops generalizing s with
  | nil => rfl
  | cons op ops ih =>
    rw [dropped_cons, List.append_eq_nil_iff] at h
    rw [published_cons, ownOf_append, replay_append, replay_perform_eq h.1]
    exact ih h.2

/-! ### Mirrors -/

namespace Watched

/-- What the watcher of a name receives over a run if it looks once more at the end. -/
def receipts (w : Watched) (name : String) (events : List Event) : List Received :=
  feed name (w.deliveries (events ++ [.poll name]))

/-- What the relationships of a tenant become for someone who applies what the watcher of a name
    receives over a run. -/
def mirror (w : Watched) (name tenant : String) (events : List Event) : List Tuple :=
  replay (w.store.tuples tenant) (changeSets (w.receipts name events))

/-- One who has just subscribed, and receives no notice, receives all change sets of its tenant. -/
theorem changeSets_receipts {w : Watched} {name tenant : String} {events : List Event}
    (h : w.Sound) (hx : w.watchers.get? name = some (w.store.watch tenant))
    (kept : ∀ e ∈ events, e.starts name = false)
    (whole : ∀ e, .error e ∉ w.receipts name events) :
    changeSets (w.receipts name events) = ownOf tenant (w.store.published (operations events)) := by
  have hkept : ∀ e ∈ events ++ [.poll name], e.starts name = false := by
    intro e he
    rcases List.mem_append.mp he with he | he
    · exact kept e he
    · rw [List.mem_singleton.mp he]
      rfl
  obtain ⟨x', hx', -, hall⟩ := feed_complete h hx hkept whole
  -- The last look has left nothing unread.
  have hseen : x'.unread (w.after (events ++ [.poll name])).store.log = [] := by
    have hlast : w.after (events ++ [.poll name]) = (w.after events).step (.poll name) := by
      rw [after_append]
      rfl
    rw [hlast, watchers_poll, if_pos rfl] at hx'
    obtain ⟨x, -, rfl⟩ := Option.map_eq_some_iff.mp hx'
    rw [hlast, store_poll]
    exact Watcher.unread_of_seen rfl
  have hops : operations (events ++ [.poll name]) = operations events := by
    rw [operations, List.filterMap_append]
    exact List.append_nil _
  rw [hseen, hops, Watcher.unread_of_seen rfl, ownOf_nil, List.append_nil, List.nil_append] at hall
  exact hall

end Watched

/-- **A mirror is exact just if nothing was dropped.** Someone subscribes to a tenant after any past,
    and receives no notice over any run. A mirror that is kept with what the feed brings then has what
    is stored, and besides it what was dropped with the tenant. -/
theorem mirror_iff_nothing_dropped (now : Int64) (past : List Watched.Event) (name tenant : String)
    (events : List Watched.Event) (kept : ∀ e ∈ events, e.starts name = false) :
    let w := ((Watched.start (initial now)).after past).step (.subscribe name tenant)
    (∀ e, .error e ∉ w.receipts name events) →
    let stored := (w.after events).store.tuples tenant
    let lost := w.store.dropped tenant (Watched.operations events)
    (w.mirror name tenant events).Perm (stored ++ lost)
      ∧ (w.mirror name tenant events = stored ↔ lost = []) := by
  intro w whole stored lost
  have hsound : w.Sound := Watched.sound_step (Watched.sound_after (Watched.sound_start _) past) _
  have hwatcher : w.watchers.get? name = some (w.store.watch tenant) :=
    Watched.watcher_subscribe _ name tenant
  have hmirror : w.mirror name tenant events
      = replay (w.store.tuples tenant)
          (ownOf tenant (w.store.published (Watched.operations events))) := by
    rw [Watched.mirror, Watched.changeSets_receipts hsound hwatcher kept whole]
  have hstored : stored = (w.store.after (Watched.operations events)).tuples tenant :=
    congrArg (fun s : Store => s.tuples tenant) (Watched.store_after w events)
  have hperm : (w.mirror name tenant events).Perm (stored ++ lost) := by
    rw [hmirror, hstored]
    exact replay_published (List.Perm.of_eq (List.append_nil _).symm)
  refine ⟨hperm, ?_, ?_⟩
  · -- An exact mirror has no room for what was dropped.
    intro hexact
    have hlength := hperm.length_eq
    rw [hexact, List.length_append] at hlength
    exact List.length_eq_zero_iff.mp (by omega)
  · intro hnothing
    rw [hmirror, hstored]
    exact replay_published_eq hnothing

/-- A document of a tenant is shared, and then the tenant is followed. -/
def followedShare : Watched :=
  ((Watched.start (initial 0)).after [.perform (.write "t1" [viewing "1"])]).step
    (.subscribe "a" "t1")

/-- A second document is shared, and then the first is not any more. -/
def resharing : List Watched.Event :=
  [.perform (.write "t1" [viewing "2"]), .poll "a",
    .perform (.delete "t1" { entity := some ⟨"document", ["1"]⟩ })]

/-- The mirror follows a write and a delete. -/
theorem mirror_iff_nothing_dropped_resharing :
    followedShare.mirror "a" "t1" resharing
      = (followedShare.after resharing).store.tuples "t1" := by
  have hreceived : followedShare.receipts "a" resharing
      = [.ok ⟨"2", [⟨.create, some (viewing "2")⟩]⟩,
          .ok ⟨"3", [⟨.delete, some (viewing "1")⟩]⟩] := by rfl
  have hmirror := mirror_iff_nothing_dropped 0 [.perform (.write "t1" [viewing "1"])] "a" "t1"
    resharing (by decide)
  have hwhole : ∀ e, .error e ∉ followedShare.receipts "a" resharing := by
    rw [hreceived]
    simp
  exact (hmirror hwhole).2.mpr rfl

/-- When the tenant is removed, its relationships are gone, but nothing is published: the mirror still
    has them. -/
theorem mirror_keeps_removed_tenant :
    let removal : List Watched.Event := [.perform (.deleteTenant "t1")]
    followedShare.receipts "a" removal = []
    ∧ followedShare.mirror "a" "t1" removal = [viewing "1"]
    ∧ (followedShare.after removal).store.tuples "t1" = [] :=
  ⟨rfl, rfl, rfl⟩

end Rebac.Store
