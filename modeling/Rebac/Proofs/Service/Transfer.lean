import Rebac.Proofs.Service.Stored

namespace Rebac.Service

open Rebac.Message Rebac.Rule Rebac.Store

/-!
# Transfers between tenants

Someone reads the relationships about one kind of entity page by page and sends every page on, as it
is, as a write for another tenant or for the same one. All pages may be read first, or pages may be
written while others are still to be read; a call that is not answered is made again.

* `Transfer`, `Transfer.State`, `Transfer.step` — a transfer, how far it is, and one call of it.
* `Transfer.Tracks` — **the invariant**: what was written, what waits and what is still to be read are
  the relationships of the source, in order. `Tracks.step` is its step law, `Tracks.after` the law of
  runs.
* `Transfer.left` — how many calls a transfer may still need.
* `transfer_faithful` — **a transfer is faithful**.
-/

/-- What is transferred: the relationships about one kind of entity, from a tenant to another one or to
    itself, in pages of a size. -/
structure Transfer where
  source : String
  target : String
  kind : String
  size : UInt32

namespace Transfer

/-- Selects the relationships about the kind of entity. -/
def filter (x : Transfer) : TupleFilter where
  entity := some { type := x.kind }

/-- The request for the page of a token. -/
def reading (x : Transfer) (d : RelationshipReadMetadata) (token : String) :
    RelationshipReadRequest :=
  ⟨x.source, some d, some x.filter, x.size, token⟩

/-- The request that sends a page on. -/
def writing (x : Transfer) (d : DataWriteMetadata) (page : List Tuple) : DataWriteRequest :=
  ⟨x.target, some d, page⟩

/-- Whether the requests for pages are valid. -/
structure Readable (x : Transfer) : Prop where
  source : NameKind.tenantId.accepts x.source = true
  kind : NameKind.identifier.accepts x.kind = true
  size : x.size.toNat ≤ 100

/-- What there is to transfer. -/
def items (x : Transfer) (s : Store) : List Tuple :=
  (s.tuples x.source).filter (selects x.filter)

/-- How far a transfer is. -/
structure State where
  /-- The services, with everything that was sent to them so far. -/
  backend : Backend
  /-- The token of the next page, if there is one. -/
  next : Option String
  /-- The pages that were read and are still to be written. -/
  pending : List (List Tuple)

/-- A transfer that begins. -/
def State.start (b : Backend) : State :=
  ⟨b, some "", []⟩

/-- Whether every page has been read and written. -/
def State.Finished (c : State) : Prop :=
  c.next = none ∧ c.pending = []

/-- A call of a transfer: the next page is read, or the first one that waits is written. -/
inductive Turn where
  | read (d : RelationshipReadMetadata) (around : Surroundings) (metadata : Metadata)
  | write (d : DataWriteMetadata) (around : Surroundings) (metadata : Metadata)

/-- One call; where it is not answered, the page is still to be read or written. -/
def step (x : Transfer) (e : Evaluator) (c : State) : Turn → State
  | .read d around metadata =>
    match c.next with
    | none => c
    | some token =>
      let (outcome, backend) :=
        c.backend.call e around metadata .readRelationships (x.reading d token)
      match outcome with
      | .answer page =>
        ⟨backend, if page.continuousToken = "" then none else some page.continuousToken,
          c.pending ++ [page.tuples]⟩
      | _ => { c with backend := backend }
  | .write d around metadata =>
    match c.pending with
    | [] => c
    | page :: rest =>
      let (outcome, backend) := c.backend.call e around metadata .writeData (x.writing d page)
      match outcome with
      | .answer _ => { c with backend := backend, pending := rest }
      | _ => { c with backend := backend }

/-- The transfer after a run of calls. -/
def after (x : Transfer) (e : Evaluator) (c : State) (turns : List Turn) : State :=
  turns.foldl (x.step e) c

variable {x : Transfer} {e : Evaluator} {s : Store} {c : State}

/-! ### Requests -/

/-- The requests for pages are valid or not, whatever the token. -/
theorem valid_reading_iff {d : RelationshipReadMetadata} {token : String} :
    violation? (x.reading d token) = none ↔ x.Readable := by
  rw [valid_read_iff]
  constructor
  · rintro ⟨hsource, -, ⟨f, hfilter, hrules⟩, hsize⟩
    cases hfilter
    have hkind : NameKind.identifier.accepts x.kind = true := by
      simp only [filterRules, filter, allHold_append, allHold_required] at hrules
      obtain ⟨⟨⟨f, hf, hrules⟩, -⟩, -⟩ := hrules
      cases hf
      exact (allHold_cons.mp hrules).1
    exact ⟨hsource, hkind, hsize⟩
  · rintro ⟨hsource, hkind, hsize⟩
    refine ⟨hsource, rfl, ⟨x.filter, rfl, ?_⟩, hsize⟩
    simp [filterRules, filter, Rule.optional, hkind, allHold_idsRules]

/-- A page of well-formed relationships that is not too long makes a valid write. -/
theorem valid_writing {page : List Tuple} (target : NameKind.tenantId.accepts x.target = true)
    (short : page.length ≤ 100) (kept : ∀ t ∈ page, Rule.WellFormed t) (d : DataWriteMetadata) :
    violation? (x.writing d page) = none :=
  valid_write_iff.mpr ⟨target, rfl, short, kept⟩

/-- Of well-formed relationships, those about a kind of entity are selected. -/
theorem items_eq (h : s.WellFormed) (kind : NameKind.identifier.accepts x.kind = true) :
    x.items s = (s.tuples x.source).filter fun t => t.entity.map Entity.type = some x.kind := by
  refine List.filter_congr fun t ht => ?_
  obtain ⟨v, hentity, -⟩ := (h.tuples x.source t ht).entity
  obtain ⟨u, hsubject, -⟩ := (h.tuples x.source t ht).subject
  have hkind : x.kind.isEmpty = false := by
    rw [Bool.eq_false_iff, ne_eq, String.isEmpty_iff]
    exact ne_empty_of_identifier kind
  simp [selects, filter, hentity, hsubject, selectsEntity, matchesText, matchesAny, hkind,
    eq_comm (a := x.kind)]

/-! ### The invariant -/

/-- Whether a token was made for a position in a list of that length; the empty one is for the
    beginning. -/
def Marks (length : Nat) (token : String) (k : Nat) : Prop :=
  token = "" ∧ k = 0 ∨ token = toString k ∧ k < length

/-- A token marks one position only. -/
theorem Marks.eq {length k j : Nat} {token : String} (h : Marks length token k)
    (hj : offset? token = some j) : j = k := by
  rcases h with ⟨rfl, rfl⟩ | ⟨rfl, -⟩
  · exact (Option.some.inj (offset?_empty.symm.trans hj)).symm
  · exact eq_of_offset?_toString hj

/-- The token of a position is read as this position. -/
theorem Marks.offset? {length k : Nat} {token : String} (h : Marks length token k)
    (fits : length ≤ 2 ^ 64) : offset? token = some k := by
  rcases h with ⟨rfl, rfl⟩ | ⟨rfl, hlt⟩
  · exact offset?_empty
  · exact offset?_toString (by omega)

/-- **The invariant of transfers.** A transfer that began with this store has read the first `k`
    relationships and written the given ones of them. -/
structure Tracks (x : Transfer) (s : Store) (c : State) (k : Nat) (written : List Tuple) :
    Prop where
  /-- What is still to be read starts at the position. -/
  position : match c.next with
    | some token => Marks (x.items s).length token k
    | none => (x.items s).length ≤ k
  /-- What was written and what waits is what was read. -/
  parts : written ++ c.pending.flatten = (x.items s).take k
  /-- Only the target has changed, by what was written. -/
  stored : ∀ tenant, c.backend.store.tuples tenant
    = s.tuples tenant ++ if x.target = tenant then s.unstored tenant written else []
  pages : ∀ page ∈ c.pending, page.length ≤ 100
  /-- Nothing is published about what the source has already. -/
  log : x.target = x.source → c.backend.store.log = s.log
  begun : c.next = some "" ∨ x.Readable

namespace Tracks

variable {k : Nat} {written : List Tuple}

/-- A transfer that begins has read and written nothing. -/
theorem start (x : Transfer) (b : Backend) : x.Tracks b.store (.start b) 0 [] where
  position := .inl ⟨rfl, rfl⟩
  parts := rfl
  stored tenant := by simp [State.start, unstored_of_stored]
  pages := by simp [State.start]
  log _ := rfl
  begun := .inl rfl

/-- What was read is in the source. -/
theorem mem_of_read {t : Tuple} (ht : t ∈ (x.items s).take k) : t ∈ s.tuples x.source :=
  (List.mem_filter.mp (List.mem_of_mem_take ht)).1

/-- What was written is in the source. -/
theorem mem_source (h : x.Tracks s c k written) : ∀ t ∈ written, t ∈ s.tuples x.source := by
  intro t ht
  refine mem_of_read (k := k) ?_
  rw [← h.parts]
  exact List.mem_append_left _ ht

/-- A tenant that is given what it has already stays as it is. -/
theorem unstored_source (h : x.Tracks s c k written) : s.unstored x.source written = [] :=
  unstored_of_stored h.mem_source

/-- The source stays as it is. -/
theorem source (h : x.Tracks s c k written) :
    c.backend.store.tuples x.source = s.tuples x.source := by
  rw [h.stored, h.unstored_source, ite_self, List.append_nil]

/-- What there is to transfer stays the same. -/
theorem items_eq (h : x.Tracks s c k written) : x.items c.backend.store = x.items s := by
  rw [items, items, h.source]

/-- What waits is well-formed if the store was. -/
theorem wellFormed (h : x.Tracks s c k written) (hs : s.WellFormed) :
    ∀ page ∈ c.pending, ∀ t ∈ page, Rule.WellFormed t := by
  intro page hpage t ht
  have hread : t ∈ (x.items s).take k := by
    rw [← h.parts]
    exact List.mem_append_right _ (List.mem_flatten.mpr ⟨page, hpage, ht⟩)
  exact hs.tuples x.source t (mem_of_read hread)

/-- A call that leaves the store alone, and after which the same is to be done, changes nothing. -/
theorem backend (h : x.Tracks s c k written) {b : Backend} (same : b.store = c.backend.store) :
    x.Tracks s { c with backend := b } k written where
  position := h.position
  parts := h.parts
  stored tenant := by rw [same]; exact h.stored tenant
  pages := h.pages
  log hself := by rw [same]; exact h.log hself
  begun := h.begun

end Tracks

/-! ### Calls -/

section Calls

variable {around : Surroundings} {metadata : Metadata}

/-- What a call for a page answers: the page at the position of its token. -/
theorem answer_reading_iff {d : RelationshipReadMetadata} {token : String}
    {page : RelationshipReadResponse} :
    (c.backend.call e around metadata .readRelationships (x.reading d token)).1 = .answer page
      ↔ (x.Readable ∧ c.backend.admits around metadata = true)
        ∧ ∃ j, offset? token = some j ∧
          let limit := (Page.mk x.size token).limit
          page = ⟨((x.items c.backend.store).drop j).take limit,
            if j + limit < (x.items c.backend.store).length then toString (j + limit) else ""⟩ := by
  rw [answer_call_iff, Backend.passes_iff, valid_reading_iff]
  refine and_congr_right fun _ => ?_
  cases hj : offset? token with
  | none =>
    have hfails : (Rpc.readRelationships.handle e around.context c.backend.store
        (x.reading d token)).1 = .failure (ServiceError.badToken token).status := by
      show Outcome.ofExcept (((Page.mk x.size token).cut (x.items c.backend.store)).map _) = _
      rw [Page.cut, hj]
      rfl
    rw [hfails]
    simp
  | some j =>
    rw [handle_read (m := x.reading d token) hj]
    simp only [Outcome.answer.injEq, Option.some.injEq, exists_eq_left']
    exact eq_comm

/-- A copier that has a token and no page reads the next page. -/
theorem step_read {d : RelationshipReadMetadata} {token : String} (hnext : c.next = some token) :
    let call := c.backend.call e around metadata .readRelationships (x.reading d token)
    x.step e c (.read d around metadata) = match call.1 with
      | .answer page =>
        ⟨call.2, if page.continuousToken = "" then none else some page.continuousToken,
          c.pending ++ [page.tuples]⟩
      | _ => { c with backend := call.2 } := by
  unfold step
  rw [hnext]

/-- A copier that has a page writes it. -/
theorem step_write {d : DataWriteMetadata} {page : List Tuple} {rest : List (List Tuple)}
    (hpending : c.pending = page :: rest) :
    let call := c.backend.call e around metadata .writeData (x.writing d page)
    x.step e c (.write d around metadata) = match call.1 with
      | .answer _ => { c with backend := call.2, pending := rest }
      | _ => { c with backend := call.2 } := by
  unfold step
  rw [hpending]

/-- A call for a page leaves the store alone. -/
theorem store_reading (d : RelationshipReadMetadata) (token : String) :
    (c.backend.call e around metadata .readRelationships (x.reading d token)).2.store
      = c.backend.store := by
  rw [store_call]
  split <;> rfl

end Calls

/-! ### Steps -/

namespace Tracks

variable {around : Surroundings} {metadata : Metadata} {k : Nat} {written : List Tuple}

/-- **The step law of reading**: the page that was answered is the next one. -/
theorem read_answer (h : x.Tracks s c k written) {token : String} (hnext : c.next = some token)
    {d : RelationshipReadMetadata} {page : RelationshipReadResponse}
    (answer : (c.backend.call e around metadata .readRelationships (x.reading d token)).1
      = .answer page) :
    x.Tracks s
      ⟨(c.backend.call e around metadata .readRelationships (x.reading d token)).2,
        if page.continuousToken = "" then none else some page.continuousToken,
        c.pending ++ [page.tuples]⟩
      (k + (Page.mk x.size token).limit) written := by
  have hshort := relationships_page_le answer
  obtain ⟨⟨hreadable, -⟩, j, hj, hpage⟩ := answer_reading_iff.mp answer
  have hposition := h.position
  rw [hnext] at hposition
  -- The token stands for the number of items read so far.
  have hk : j = k := hposition.eq hj
  rw [h.items_eq, hk] at hpage
  have hstore : (c.backend.call e around metadata .readRelationships (x.reading d token)).2.store
      = c.backend.store := store_reading d token
  refine ⟨?_, ?_, ?_, ?_, ?_, .inr hreadable⟩
  · rw [hpage]
    dsimp only
    by_cases hmore : k + (Page.mk x.size token).limit < (x.items s).length
    · rw [if_pos hmore, if_neg (toString_ne_empty _)]
      exact .inr ⟨rfl, hmore⟩
    · rw [if_neg hmore, if_pos rfl]
      exact Nat.le_of_not_lt hmore
  · -- What was written and what waits is the list up to the new position.
    rw [List.flatten_append, ← List.append_assoc, h.parts, List.flatten_singleton, List.take_add,
      hpage]
  · intro tenant
    rw [hstore]
    exact h.stored tenant
  · intro p hp
    rcases List.mem_append.mp hp with hold | hnew
    · exact h.pages p hold
    · rw [List.mem_singleton.mp hnew]
      exact hshort
  · intro hself
    rw [hstore]
    exact h.log hself

/-- **The step law of writing**: the page that was written is the first that waits. -/
theorem write_page (h : x.Tracks s c k written) {page : List Tuple} {rest : List (List Tuple)}
    (hpending : c.pending = page :: rest) {b : Backend}
    (hstore : b.store = (c.backend.store.write x.target page).2) :
    x.Tracks s ⟨b, c.next, rest⟩ k (written ++ page) := by
  have hparts : written ++ page ++ rest.flatten = (x.items s).take k := by
    rw [← h.parts, hpending, List.flatten_cons, List.append_assoc]
  have hpage : ∀ t ∈ page, t ∈ s.tuples x.source := by
    intro t ht
    have hread : t ∈ (x.items s).take k := by
      rw [← hparts]
      simp [ht]
    exact mem_of_read hread
  -- What is added is what was not there before the transfer and has not been written since.
  have hadded : c.backend.store.unstored x.target page
      = (s.write x.target written).2.unstored x.target page := by
    rw [unstored, unstored, h.stored, tuples_write, if_pos rfl, if_pos rfl]
  refine ⟨h.position, hparts, ?_, ?_, ?_, h.begun⟩
  · intro tenant
    rw [hstore, tuples_write, h.stored]
    by_cases htenant : x.target = tenant
    · subst htenant
      rw [if_pos rfl, if_pos rfl, if_pos rfl, hadded, unstored_append, List.append_assoc]
    · rw [if_neg htenant, if_neg htenant, if_neg htenant]
  · exact fun p hp => h.pages p (by rw [hpending]; exact List.mem_cons_of_mem _ hp)
  · intro hself
    have hnothing : c.backend.store.unstored x.target page = [] := by
      refine unstored_of_stored fun t ht => ?_
      rw [hself, h.source]
      exact hpage t ht
    have hlog : b.store.log.newestFirst = c.backend.store.log.newestFirst := by
      rw [hstore, log_write, hnothing]
      rfl
    exact (congrArg Log.mk hlog).trans (h.log hself)

/-- **The step law of transfers.** A call that is answered brings the transfer on, any other leaves it
    where it is. -/
theorem step (h : x.Tracks s c k written) (turn : Turn) :
    ∃ k' written', x.Tracks s (x.step e c turn) k' written' := by
  cases turn with
  | read d around metadata =>
    cases hnext : c.next with
    | none =>
      have hstays : x.step e c (.read d around metadata) = c := by
        unfold Transfer.step
        rw [hnext]
      exact ⟨k, written, by rwa [hstays]⟩
    | some token =>
      rw [step_read hnext]
      split
      · next page answer => exact ⟨_, written, h.read_answer hnext answer⟩
      · exact ⟨k, written, h.backend (store_reading d token)⟩
  | write d around metadata =>
    cases hpending : c.pending with
    | nil =>
      have hstays : x.step e c (.write d around metadata) = c := by
        unfold Transfer.step
        rw [hpending]
      exact ⟨k, written, by rwa [hstays]⟩
    | cons page rest =>
      rw [step_write hpending]
      have hstore := store_call c.backend e around metadata .writeData (x.writing d page)
      split
      · next token answer =>
        rw [if_pos ((answer_call_iff ..).mp answer).1] at hstore
        exact ⟨k, _, h.write_page hpending hstore⟩
      · next unanswered =>
        -- A write that reaches its handler is answered.
        have hmissed : c.backend.passes around metadata .writeData (x.writing d page) = false := by
          rw [Bool.eq_false_iff]
          intro hpasses
          exact unanswered _ ((answer_call_iff ..).mpr ⟨hpasses, rfl⟩)
        rw [hmissed, if_neg Bool.false_ne_true] at hstore
        exact ⟨k, written, h.backend hstore⟩

/-- **The law of runs.** A transfer keeps its invariant, however many calls are made. -/
theorem after (h : x.Tracks s c k written) (turns : List Turn) :
    ∃ k' written', x.Tracks s (x.after e c turns) k' written' := by
  induction turns generalizing c k written with
  | nil => exact ⟨k, written, h⟩
  | cons turn rest ih =>
    obtain ⟨_, _, hstep⟩ := h.step (e := e) turn
    exact ih hstep

/-- A finished transfer has written everything. -/
theorem written_of_finished (h : x.Tracks s c k written) (finished : c.Finished) :
    written = x.items s := by
  have hposition := h.position
  rw [finished.1] at hposition
  have hparts := h.parts
  rw [finished.2, List.flatten_nil, List.append_nil] at hparts
  rw [hparts, List.take_of_length_le hposition]

end Tracks

/-! ### Progress -/

/-- How many calls a transfer may still need, if all are answered: one for each page that waits, and
    two for each that is still to be read. -/
def left (x : Transfer) (c : State) : Nat :=
  (match c.next with
    | some token => 2 * ((x.items c.backend.store).length - (offset? token).getD 0 + 1)
    | none => 0) + c.pending.length

/-- Whether there is something to do for a call. -/
def State.Due (c : State) : Turn → Prop
  | .read .. => c.next ≠ none
  | .write .. => c.pending ≠ []

/-- Whether a call is let in. -/
def State.letsIn (c : State) : Turn → Bool
  | .read _ around metadata | .write _ around metadata => c.backend.admits around metadata

/-- A run of calls for which there is something to do, and which are all let in. -/
def Smooth (x : Transfer) (e : Evaluator) : State → List Turn → Prop
  | _, [] => True
  | c, turn :: rest => c.Due turn ∧ c.letsIn turn = true ∧ x.Smooth e (x.step e c turn) rest

/-- A transfer that needs no more calls is finished. -/
theorem left_eq_zero_iff : x.left c = 0 ↔ c.Finished := by
  unfold left State.Finished
  cases c.next with
  | none => simp
  | some token => simp

/-- At the start there are two steps for each item, and two for the last page. -/
theorem left_start (b : Backend) : x.left (.start b) = 2 * ((x.items b.store).length + 1) := rfl

/-- **A call that is let in brings a transfer on**, if there is something to do for it. -/
theorem left_step {k : Nat} {written : List Tuple} (h : x.Tracks s c k written) (hs : s.WellFormed)
    (readable : x.Readable) (target : NameKind.tenantId.accepts x.target = true)
    (fits : (x.items s).length ≤ 2 ^ 64) {turn : Turn} (due : c.Due turn)
    (letIn : c.letsIn turn = true) : x.left (x.step e c turn) < x.left c := by
  cases turn with
  | read d around metadata =>
    -- A page that is read puts one write on the list, and takes away at least two steps for its items.
    obtain ⟨token, hnext⟩ := Option.ne_none_iff_exists'.mp due
    have hposition := h.position
    rw [hnext] at hposition
    have hk := hposition.offset? fits
    have hanswer := (answer_reading_iff (c := c) (e := e) (d := d)).mpr
      ⟨⟨readable, letIn⟩, k, hk, rfl⟩
    have hlimit := (Page.mk x.size token).limit_pos
    rw [step_read hnext, hanswer]
    dsimp only
    unfold left
    rw [hnext, store_reading, h.items_eq]
    dsimp only
    rw [hk]
    by_cases hmore : k + (Page.mk x.size token).limit < (x.items s).length
    · have hread := offset?_toString (n := k + (Page.mk x.size token).limit) (by omega)
      rw [if_pos hmore, if_neg (toString_ne_empty _)]
      dsimp only
      rw [hread, List.length_append, List.length_singleton, Option.getD_some, Option.getD_some]
      omega
    · rw [if_neg hmore, if_pos rfl]
      dsimp only
      rw [List.length_append, List.length_singleton, Option.getD_some]
      omega
  | write d around metadata =>
    -- A write of a waiting page is valid, hence succeeds, and changes nothing of what is still read.
    obtain ⟨page, rest, hpending⟩ := List.exists_cons_of_ne_nil due
    have hpage : page ∈ c.pending := by simp [hpending]
    have hvalid := valid_writing target (h.pages page hpage) (h.wellFormed hs page hpage) d
    have hpasses : c.backend.passes around metadata .writeData (x.writing d page) = true :=
      Backend.passes_iff.mpr ⟨hvalid, letIn⟩
    have hanswer := (answer_call_iff c.backend e around metadata .writeData (x.writing d page)).mpr
      ⟨hpasses, rfl⟩
    have hstore := store_call c.backend e around metadata .writeData (x.writing d page)
    rw [if_pos hpasses] at hstore
    have hitems := (h.write_page hpending hstore).items_eq
    rw [step_write hpending, hanswer]
    dsimp only
    unfold left
    dsimp only at hitems ⊢
    rw [hitems, h.items_eq, hpending, List.length_cons]
    omega

/-- **A transfer ends.** Calls that are let in, and for which there is something to do, are no more
    than it may need. -/
theorem length_add_left_le {k : Nat} {written : List Tuple} (h : x.Tracks s c k written)
    (hs : s.WellFormed) (readable : x.Readable)
    (target : NameKind.tenantId.accepts x.target = true) (fits : (x.items s).length ≤ 2 ^ 64)
    {turns : List Turn} (smooth : x.Smooth e c turns) :
    turns.length + x.left (x.after e c turns) ≤ x.left c := by
  induction turns generalizing c k written with
  | nil => exact Nat.le_of_eq (Nat.zero_add _)
  | cons turn rest ih =>
    obtain ⟨due, letIn, hrest⟩ := smooth
    have hless := left_step (e := e) h hs readable target fits due letIn
    obtain ⟨_, _, hstep⟩ := h.step (e := e) turn
    have hlater := ih hstep hrest
    show rest.length + 1 + x.left (x.after e (x.step e c turn) rest) ≤ x.left c
    omega

end Transfer

/-! ### Transfers between tenants -/

open Transfer in
/-- **A transfer is faithful.** The services have been used in any way. Then the relationships about a
    kind of entity are read page by page, and each page is written as it is, in any interleaving and
    with any calls in between that are not let in.

    * Every page makes a valid write, whatever the target and the metadata.
    * Once every page has been written to another tenant without relationships, that tenant has exactly
      the relationships of the source about the kind of entity, in the same order.
    * A transfer of a tenant to itself changes no stored relationship and publishes nothing.
    * If the requests are valid, every call that is let in is answered and brings the transfer on, and it
      ends after at most two calls for each relationship and two more. A list in memory has positions
      of 64 bits, which is assumed of the relationships. -/
theorem transfer_faithful (now : Int64) (gate : Gate) (e : Evaluator) (events : List Session.Event)
    (x : Transfer) (turns : List Turn) :
    let b := ((Session.start now gate).after e events).backend
    let c := x.after e (.start b) turns
    (∀ page ∈ c.pending, NameKind.tenantId.accepts x.target = true →
        ∀ d, violation? (x.writing d page) = none)
    ∧ (c.Finished → x.target ≠ x.source → b.store.tuples x.target = [] →
        c.backend.store.tuples x.target
          = (b.store.tuples x.source).filter fun t => t.entity.map Entity.type = some x.kind)
    ∧ (x.target = x.source →
        (∀ tenant, c.backend.store.tuples tenant = b.store.tuples tenant)
          ∧ c.backend.store.log = b.store.log)
    ∧ (x.Readable → NameKind.tenantId.accepts x.target = true →
        b.store.count x.source ≤ 2 ^ 64 →
        x.left (.start b) ≤ 2 * b.store.count x.source + 2
          ∧ (x.left c = 0 ↔ c.Finished)
          ∧ ∀ more, x.Smooth e c more → more.length + x.left (x.after e c more) ≤ x.left c) := by
  intro b c
  have hs : b.store.WellFormed := Session.wellFormed_reached now gate e events
  obtain ⟨k, written, h⟩ := (Tracks.start x b).after (e := e) turns
  refine ⟨?_, ?_, ?_, ?_⟩
  · intro page hpage target d
    exact valid_writing target (h.pages page hpage) (h.wellFormed hs page hpage) d
  · intro finished other empty
    have hreadable : x.Readable := by
      -- At the beginning there is a page to be read.
      rcases h.begun with hbegins | hreadable
      · exact absurd (hbegins.symm.trans finished.1) (Option.some_ne_none _)
      · exact hreadable
    have hnodup : (x.items b.store).Nodup :=
      (Session.nodup_reached now gate e events x.source).filter _
    rw [h.stored, if_pos rfl, h.written_of_finished finished, empty, List.nil_append,
      unstored_of_nodup hnodup (by simp [empty])]
    exact items_eq hs hreadable.kind
  · intro hself
    refine ⟨fun tenant => ?_, h.log hself⟩
    rw [h.stored]
    split
    · next htenant => rw [← htenant, hself, h.unstored_source, List.append_nil]
    · exact List.append_nil _
  · intro readable target fits
    have hitems : (x.items b.store).length ≤ b.store.count x.source := List.length_filter_le _ _
    refine ⟨?_, left_eq_zero_iff, fun more smooth => ?_⟩
    · rw [left_start]
      omega
    · exact length_add_left_le h hs readable target (Nat.le_trans hitems fits) smooth

/-- Two documents are shared. -/
def stocking : List Session.Event :=
  [.call .writeData ⟨"t1", some {}, [viewing "1", viewing "2"]⟩ ⟨⟨0, .unreachable⟩, ⟨0, ""⟩⟩ []]

/-- Services with two documents behind a gate for ten calls. -/
def stocked : Backend :=
  ((Session.start 0 ⟨.ofRate 10, none⟩).after .direct stocking).backend

/-- The documents are handed on to another tenant, or to the tenant itself, one on each page. -/
def handing (target : String) : Transfer :=
  ⟨"t1", target, "document", 1⟩

/-- The first page is read and written before the second. -/
def alternately : List Transfer.Turn :=
  let around : Surroundings := ⟨⟨0, .unreachable⟩, ⟨0, ""⟩⟩
  [.read {} around [], .write {} around [], .read {} around [], .write {} around []]

open Transfer in
/-- The documents of one tenant reach another one, and a tenant that hands them to itself stays as it
    is. -/
theorem transfer_faithful_documents :
    ((handing "t2").after .direct (.start stocked) alternately).Finished
    ∧ ((handing "t2").after .direct (.start stocked) alternately).backend.store.tuples "t2"
        = [viewing "1", viewing "2"]
    ∧ ((handing "t1").after .direct (.start stocked) alternately).backend.store.log
        = stocked.store.log
    ∧ violation? ((handing "t2").writing {} [viewing "1"]) = none
    ∧ (handing "t2").left (.start stocked) ≤ 6 := by
  obtain ⟨-, hother, -, hends⟩ :=
    transfer_faithful 0 ⟨.ofRate 10, none⟩ .direct stocking (handing "t2") alternately
  obtain ⟨-, -, hself, -⟩ :=
    transfer_faithful 0 ⟨.ofRate 10, none⟩ .direct stocking (handing "t1") alternately
  obtain ⟨hvalid, -⟩ :=
    transfer_faithful 0 ⟨.ofRate 10, none⟩ .direct stocking (handing "t2") (alternately.take 1)
  rw [← stocked] at hother hself hends hvalid
  have hfinished : ((handing "t2").after .direct (.start stocked) alternately).Finished := by
    constructor <;> decide
  have hall : (stocked.store.tuples "t1").filter (fun t => t.entity.map Entity.type = some "document")
      = [viewing "1", viewing "2"] := by decide
  refine ⟨hfinished, ?_, (hself rfl).2, ?_, ?_⟩
  · exact (hother hfinished (by decide) rfl).trans hall
  · exact hvalid [viewing "1"] (List.mem_singleton_self _) (by decide) {}
  · exact (hends ⟨by decide, by decide, by decide⟩ (by decide) (by decide)).1

end Rebac.Service
