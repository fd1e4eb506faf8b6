import Rebac.Record.Shape
import Rebac.Rule.Basic

namespace Rebac.Rule

/-!
# Places and faults

A list of rules checks a message in some order. Here it is said without an order where a message is
wrong; which fault comes first is decided by their places.

* `Place`, `Place.Before` — the places in a message, and which comes first: a part before what is in it,
  fields in the order in which they are declared, items in the order of their list.
* `Place.path`, `Place.under` — the text of a place.
* `Faults` — where a part of a message is wrong, and why; a `Form` puts those of a record together from
  those of its fields.
* `Faults.Clean`, `clean_form_iff` and the other lemmas of that name — a part of which nothing is wrong.
* `First`, `First.unique` — the first fault; `first_form_iff` and the other lemmas of that name find it
  part by part: **what comes before the part with the first fault is clean**.
-/

/-! ### Places -/

/-- A step into a message: to a field, told by its number in the order of declaration and by its name,
    or to an item of a list. -/
inductive Step where
  | field (number : Nat) (name : String)
  | item (number : Nat)
  deriving DecidableEq

/-- The number of a step among those from the same part. -/
def Step.number : Step → Nat
  | field n _ => n
  | item n => n

/-- A place in a message: the steps that lead to it. -/
abbrev Place := List Step

namespace Place

/-- The text of a place within a part that has a path of its own. -/
def under (path : String) : Place → String
  | [] => path
  | .field _ name :: below => under (path ++ s!".{name}") below
  | .item i :: below => under s!"{path}[{i}]" below

/-- Two steps below a path may be written at once. -/
theorem under_below (path : String) {outer inner whole : String} (h : outer ++ inner = whole) :
    path ++ whole = path ++ outer ++ inner := by
  rw [← h, String.append_assoc]

/-- The text of a place in a request. -/
def path : Place → String
  | .field _ name :: below => under name below
  | place => under "" place

example : path [.field 2 "tuples", .item 3, .field 0 "entity", .field 1 "id"]
    = "tuples[3].entity.id" := by
  decide

/-- Whether a place comes before another one. -/
def Before (a b : Place) : Prop :=
  a.map Step.number < b.map Step.number

/-- A place comes before the places below it. -/
theorem before_cons (step : Step) (below : Place) : Before [] (step :: below) :=
  List.nil_lt_cons _ _

/-- Of two places the one with the earlier first step comes first, and after the same step the rest
    decides. -/
theorem cons_before_cons {a b : Step} {p q : Place} :
    Before (a :: p) (b :: q) ↔ a.number < b.number ∨ a.number = b.number ∧ Before p q :=
  List.cons_lt_cons_iff

/-- Below the same step the rest of two places decides. -/
theorem cons_before_cons_same {step : Step} {p q : Place} :
    Before (step :: p) (step :: q) ↔ Before p q := by
  simp [cons_before_cons]

/-- An earlier first step decides. -/
theorem before_of_lt {a b : Step} {p q : Place} (h : a.number < b.number) :
    Before (a :: p) (b :: q) :=
  cons_before_cons.mpr (.inl h)

/-- No two places come before each other. -/
theorem Before.asymm {a b : Place} (h : Before a b) : ¬Before b a :=
  List.lt_asymm h

end Place

open Place

/-! ### Faults -/

/-- What is wrong with a part of a message: the places in it where a rule is broken, and the reasons. -/
abbrev Faults := Place → Reason → Prop

/-- Nothing is wrong. -/
def Faults.Clean (faults : Faults) : Prop :=
  ∀ place reason, ¬faults place reason

/-- Anything goes. -/
def free : Faults := fun _ _ => False

/-- The part itself has to keep a rule. -/
def broken (holds : Bool) (reason : Reason) : Faults := fun place reason' =>
  holds = false ∧ place = [] ∧ reason' = reason

/-- A string has to be a name of that kind. -/
def unnamed (kind : NameKind) (value : String) : Faults :=
  broken (kind.accepts value) (.notNamed value kind)

/-- A string has to be empty or a name of that kind. -/
def unnamedIfGiven (kind : NameKind) (value : String) : Faults := fun place reason =>
  value ≠ "" ∧ unnamed kind value place reason

/-- A part has to keep two kinds of rules. -/
def either (F G : Faults) : Faults := fun place reason =>
  F place reason ∨ G place reason

section Parts

variable {α : Type}

/-- A part has to be there. -/
def ofRequired (value : Option α) (faults : α → Faults) : Faults := fun place reason =>
  (value = none ∧ place = [] ∧ reason = .required) ∨ ∃ a, value = some a ∧ faults a place reason

/-- A part may be there. -/
def ofOptional (value : Option α) (faults : α → Faults) : Faults := fun place reason =>
  ∃ a, value = some a ∧ faults a place reason

/-- Each part has faults of its own, behind the step that leads to it. -/
def ofParts (parts : List (Step × Faults)) : Faults := fun place reason =>
  ∃ part ∈ parts, ∃ below, place = part.1 :: below ∧ part.2 below reason

/-- The faults of parts that are counted, the first of which has the given number. -/
def ofNumbered (stepTo : Nat → α → Step) (faults : α → Faults) (n : Nat) (l : List α) : Faults :=
  ofParts ((l.zipIdx n).map fun p => (stepTo p.2 p.1, faults p.1))

/-- The faults of the items of a list. -/
def ofItems (faults : α → Faults) (items : List α) : Faults :=
  ofNumbered (fun i _ => .item i) faults 0 items

/-- The faults of fields that follow each other, the first of which has the given number. -/
def ofFields (n : Nat) (fields : List (String × Faults)) : Faults :=
  ofNumbered (fun i field => .field i field.1) Prod.snd n fields

/-- A part that is there has the faults of its value. -/
theorem ofRequired_some (a : α) (faults : α → Faults) : ofRequired (some a) faults = faults a := by
  funext place reason
  simp [ofRequired]

/-- An optional part that is there has the faults of its value. -/
theorem ofOptional_some (a : α) (faults : α → Faults) : ofOptional (some a) faults = faults a := by
  funext place reason
  simp [ofOptional]

/-- A rule that holds adds no fault. -/
theorem either_of_holds (F : Faults) (reason : Reason) : either (broken true reason) F = F := by
  funext place reason'
  simp [either, broken]

/-- The faults of a list are those of its items, each below the step to its item. -/
theorem ofNumbered_iff {stepTo : Nat → α → Step} {faults : α → Faults} {l : List α} {place : Place}
    {reason : Reason} :
    ofNumbered stepTo faults 0 l place reason
      ↔ ∃ i a below, l[i]? = some a ∧ place = stepTo i a :: below ∧ faults a below reason := by
  constructor
  · rintro ⟨part, hpart, below, rfl, hfault⟩
    obtain ⟨⟨a, i⟩, ha, rfl⟩ := List.mem_map.mp hpart
    exact ⟨i, a, below, List.mk_mem_zipIdx_iff_getElem?.mp ha, rfl, hfault⟩
  · rintro ⟨i, a, below, ha, rfl, hfault⟩
    exact ⟨_, List.mem_map_of_mem (List.mk_mem_zipIdx_iff_getElem?.mpr ha), below, rfl, hfault⟩

end Parts

/-- What may be wrong with a record: the faults of all of its fields, in the order in which they are
    declared. -/
structure Form (α : Type) [Record α] where
  fields : List (String × Faults)
  declared : fields.map Prod.fst = (Record.fields α).names

/-- The faults of a record. -/
def Form.faults {α : Type} [Record α] (form : Form α) : Faults :=
  ofFields 0 form.fields

/-! ### Parts without faults -/

section Clean

variable {α : Type} {F G : Faults} {reason : Reason}

@[simp] theorem clean_free : free.Clean :=
  fun _ _ => id

@[simp] theorem clean_broken_iff {holds : Bool} : (broken holds reason).Clean ↔ holds = true := by
  constructor
  · intro hclean
    cases holds with
    | true => rfl
    | false => exact absurd ⟨rfl, rfl, rfl⟩ (hclean [] reason)
  · rintro rfl place reason' ⟨hbroken, -⟩
    exact Bool.false_ne_true hbroken.symm

@[simp] theorem clean_unnamed_iff {kind : NameKind} {value : String} :
    (unnamed kind value).Clean ↔ kind.accepts value = true :=
  clean_broken_iff

@[simp] theorem clean_unnamedIfGiven_iff {kind : NameKind} {value : String} :
    (unnamedIfGiven kind value).Clean ↔ value = "" ∨ kind.accepts value = true := by
  rw [← clean_unnamed_iff]
  constructor
  · intro hclean
    by_cases hvalue : value = ""
    · exact .inl hvalue
    · exact .inr fun place reason hfault => hclean place reason ⟨hvalue, hfault⟩
  · rintro (hvalue | hclean) place reason ⟨hgiven, hfault⟩
    · exact hgiven hvalue
    · exact hclean place reason hfault

@[simp] theorem clean_either_iff : (either F G).Clean ↔ F.Clean ∧ G.Clean := by
  simp only [Faults.Clean, either, not_or, forall_and]

@[simp] theorem clean_ofRequired_iff {value : Option α} {faults : α → Faults} :
    (ofRequired value faults).Clean ↔ ∃ a, value = some a ∧ (faults a).Clean := by
  cases value <;> simp [Faults.Clean, ofRequired]

@[simp] theorem clean_ofOptional_iff {value : Option α} {faults : α → Faults} :
    (ofOptional value faults).Clean ↔ ∀ a, value = some a → (faults a).Clean := by
  cases value <;> simp [Faults.Clean, ofOptional]

/-- Parts are clean exactly if each of them is. -/
theorem clean_ofParts_iff {parts : List (Step × Faults)} :
    (ofParts parts).Clean ↔ ∀ part ∈ parts, part.2.Clean := by
  constructor
  · intro hclean part hpart below reason hfault
    exact hclean _ _ ⟨part, hpart, below, rfl, hfault⟩
  · rintro hclean place reason ⟨part, hpart, below, -, hfault⟩
    exact hclean part hpart below reason hfault

/-- A list is clean exactly if each of its items is. -/
theorem clean_ofNumbered_iff {stepTo : Nat → α → Step} {faults : α → Faults} {n : Nat}
    {l : List α} : (ofNumbered stepTo faults n l).Clean ↔ ∀ a ∈ l, (faults a).Clean := by
  rw [ofNumbered, clean_ofParts_iff, List.forall_mem_map]
  calc (∀ p ∈ l.zipIdx n, (faults p.1).Clean)
      ↔ ∀ a ∈ (l.zipIdx n).map Prod.fst, (faults a).Clean := by
        rw [List.forall_mem_map]
    _ ↔ ∀ a ∈ l, (faults a).Clean := by rw [List.zipIdx_map_fst]

@[simp] theorem clean_ofItems_iff {faults : α → Faults} {items : List α} :
    (ofItems faults items).Clean ↔ ∀ a ∈ items, (faults a).Clean :=
  clean_ofNumbered_iff

/-- A form is clean exactly if each of its fields is. -/
theorem clean_form_iff [Record α] {form : Form α} :
    form.faults.Clean ↔ ∀ field ∈ form.fields, field.2.Clean := by
  rw [Form.faults, ofFields, clean_ofNumbered_iff]

end Clean

/-! ### The first fault -/

/-- A fault, before all others. -/
structure First (faults : Faults) (place : Place) (reason : Reason) : Prop where
  fault : faults place reason
  earliest : ∀ other reason', faults other reason' →
    other = place ∧ reason' = reason ∨ Before place other

variable {F G : Faults} {place : Place} {reason : Reason}

/-- There is one first fault at most. -/
theorem First.unique {place' : Place} {reason' : Reason} (h : First F place reason)
    (h' : First F place' reason') : place' = place ∧ reason' = reason := by
  rcases h.earliest _ _ h'.fault with hsame | hlater
  · exact hsame
  · rcases h'.earliest _ _ h.fault with ⟨hplace, hreason⟩ | hearlier
    · exact ⟨hplace.symm, hreason.symm⟩
    · exact absurd hearlier hlater.asymm

section Parts

variable {α : Type} {step : Step} {below : Place} {parts : List (Step × Faults)}

/-- A part comes before the parts that are behind later steps. -/
theorem First.ofHead (h : First F below reason)
    (later : ∀ part ∈ parts, step.number < part.1.number) :
    First (ofParts ((step, F) :: parts)) (step :: below) reason := by
  refine ⟨⟨_, List.mem_cons_self, below, rfl, h.fault⟩, ?_⟩
  rintro other reason' ⟨part, hmem, below', rfl, hfault⟩
  rcases List.mem_cons.mp hmem with rfl | hmem
  · rcases h.earliest _ _ hfault with ⟨rfl, rfl⟩ | hlater
    · exact .inl ⟨rfl, rfl⟩
    · exact .inr (cons_before_cons_same.mpr hlater)
  · exact .inr (before_of_lt (later part hmem))

/-- A part of which nothing is wrong does not count. -/
theorem First.ofTail (h : First (ofParts parts) place reason) (clean : F.Clean) :
    First (ofParts ((step, F) :: parts)) place reason := by
  obtain ⟨part, hmem, hpart⟩ := h.fault
  refine ⟨⟨part, List.mem_cons_of_mem _ hmem, hpart⟩, ?_⟩
  rintro other reason' ⟨part', hmem', below', rfl, hfault⟩
  rcases List.mem_cons.mp hmem' with rfl | hmem'
  · exact absurd hfault (clean _ _)
  · exact h.earliest _ _ ⟨part', hmem', below', rfl, hfault⟩

/-- The first fault of a part with a rule. -/
theorem first_broken_iff {holds : Bool} {own : Reason} :
    First (broken holds own) place reason ↔ holds = false ∧ place = [] ∧ reason = own :=
  ⟨fun h => h.fault, fun h => ⟨h, fun _ _ hother => .inl ⟨hother.2.1.trans h.2.1.symm,
    hother.2.2.trans h.2.2.symm⟩⟩⟩

/-- The first fault is within a part that has to be there just if the part is there. -/
theorem first_ofRequired_iff {value : Option α} {faults : α → Faults} :
    First (ofRequired value faults) (step :: below) reason
      ↔ ∃ a, value = some a ∧ First (faults a) (step :: below) reason := by
  cases value with
  | none =>
    constructor
    · rintro ⟨⟨-, hplace, -⟩ | ⟨a, hvalue, -⟩, -⟩
      · cases hplace
      · cases hvalue
    · rintro ⟨a, hvalue, -⟩
      cases hvalue
  | some a => simp [ofRequired_some]

/-- The first fault of an optional part is that of its value. -/
theorem first_ofOptional_iff {value : Option α} {faults : α → Faults} :
    First (ofOptional value faults) place reason
      ↔ ∃ a, value = some a ∧ First (faults a) place reason := by
  cases value with
  | none =>
    constructor
    · rintro ⟨⟨a, hvalue, -⟩, -⟩
      cases hvalue
    · rintro ⟨a, hvalue, -⟩
      cases hvalue
  | some a => simp [ofOptional_some]

/-- The first fault is within a part with a rule just if the part keeps the rule. -/
theorem first_either_iff {holds : Bool} {own : Reason} :
    First (either (broken holds own) F) (step :: below) reason
      ↔ holds = true ∧ First F (step :: below) reason := by
  cases holds with
  | true => simp [either_of_holds]
  | false =>
    refine iff_of_false ?_ (fun h => Bool.false_ne_true h.1)
    intro h
    rcases h.earliest [] own (.inl ⟨rfl, rfl, rfl⟩) with ⟨hsame, -⟩ | hlater
    · cases hsame
    · exact hlater.asymm (before_cons step below)

/-- **The first fault of counted parts** is the first of a part such that the parts before it are
    clean. -/
theorem first_ofNumbered_iff {stepTo : Nat → α → Step} (counts : ∀ i a, (stepTo i a).number = i)
    {faults : α → Faults} {l : List α} :
    First (ofNumbered stepTo faults 0 l) (step :: below) reason
      ↔ ∃ a, l[step.number]? = some a ∧ step = stepTo step.number a ∧ First (faults a) below reason
        ∧ ∀ b ∈ l.take step.number, (faults b).Clean := by
  constructor
  · intro h
    obtain ⟨i, a, below', ha, hplace, hfault⟩ := ofNumbered_iff.mp h.fault
    obtain ⟨rfl, rfl⟩ := List.cons.inj hplace
    rw [counts]
    refine ⟨a, ha, rfl, ⟨hfault, ?_⟩, ?_⟩
    · intro other reason' hother
      rcases h.earliest _ _ (ofNumbered_iff.mpr ⟨i, a, other, ha, rfl, hother⟩) with hsame | hlater
      · exact .inl ⟨(List.cons.inj hsame.1).2, hsame.2⟩
      · exact .inr (cons_before_cons_same.mp hlater)
    · -- A fault in an earlier part would come before the first one.
      intro b hb other reason' hother
      obtain ⟨j, hj, rfl⟩ := List.mem_take_iff_getElem.mp hb
      have hearlier : Before (stepTo j l[j] :: other) (stepTo i a :: below) :=
        before_of_lt (by rw [counts, counts]; omega)
      have hitem : l[j]? = some l[j] := List.getElem?_eq_getElem (by omega)
      rcases h.earliest _ _ (ofNumbered_iff.mpr ⟨j, _, other, hitem, rfl, hother⟩) with hsame | hlater
      · rw [hsame.1] at hearlier
        exact hearlier.asymm hearlier
      · exact hlater.asymm hearlier
  · rintro ⟨a, ha, hstep, hfirst, hclean⟩
    refine ⟨ofNumbered_iff.mpr ⟨_, a, below, ha, by rw [← hstep], hfirst.fault⟩, ?_⟩
    intro other reason' hother
    obtain ⟨j, b, other, hb, rfl, hfault⟩ := ofNumbered_iff.mp hother
    -- Earlier parts are clean, the same part has its own first fault, and later parts come later.
    rcases Nat.lt_trichotomy j step.number with hlt | rfl | hgt
    · have hbefore : b ∈ l.take step.number :=
        List.mem_of_getElem? (by rwa [List.getElem?_take_of_lt hlt])
      exact absurd hfault (hclean b hbefore _ _)
    · obtain rfl : a = b := Option.some.inj (ha.symm.trans hb)
      rw [← hstep]
      rcases hfirst.earliest _ _ hfault with ⟨rfl, rfl⟩ | hlater
      · exact .inl ⟨rfl, rfl⟩
      · exact .inr (cons_before_cons_same.mpr hlater)
    · exact .inr (before_of_lt (by rwa [counts]))

/-- The item with the first fault of a list: the items before it are clean. -/
theorem first_ofItems_iff {faults : α → Faults} {items : List α} {i : Nat} :
    First (ofItems faults items) (.item i :: below) reason
      ↔ ∃ a, items[i]? = some a ∧ First (faults a) below reason
        ∧ ∀ b ∈ items.take i, (faults b).Clean := by
  rw [ofItems, first_ofNumbered_iff fun _ _ => rfl]
  simp [Step.number]

/-- The field with the first fault of a record: the fields before it are clean. -/
theorem first_form_iff [Record α] {form : Form α} {n : Nat} {name : String} :
    First form.faults (.field n name :: below) reason
      ↔ ∃ faults, form.fields[n]? = some (name, faults)
        ∧ (∀ field ∈ form.fields.take n, field.2.Clean) ∧ First faults below reason := by
  rw [Form.faults, ofFields, first_ofNumbered_iff fun _ _ => rfl]
  constructor
  · rintro ⟨⟨name', faults⟩, hfield, hname, hfirst, hclean⟩
    cases hname
    exact ⟨faults, hfield, hclean, hfirst⟩
  · rintro ⟨faults, hfield, hclean, hfirst⟩
    exact ⟨(name, faults), hfield, rfl, hfirst, hclean⟩

end Parts

end Rebac.Rule
