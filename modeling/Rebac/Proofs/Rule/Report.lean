import Rebac.Proofs.Rule.Fault

namespace Rebac.Rule

/-!
# Rules that report the first fault

A list of rules is checked from its beginning, and what it reports should be the first fault of the part
that it checks. That is shown once for each way to put rules together.

* `firstBroken_append` — rules that follow each other.
* `Reports` — a list of rules reports the first fault of a part; `Reports.none_iff` and
  `Reports.some_iff` say what it reports.
* `Reports.rule`, `Reports.namedIfGiven` — single rules.
* `Reports.required`, `Reports.present`, `Reports.optional` — parts that may be missing.
* `Reports.part` — **parts that are checked in their order**; so fields (`Reports.field`, and
  `Reports.fieldRule` and others for short ones) and items (`Reports.items`).
* `Reports.own` — a list with a rule of its own.
-/

variable {F : Faults}

/-- The first rule that is broken is looked for in the first list, then in the second. -/
theorem firstBroken_append (a b : List Rule) :
    firstBroken (a ++ b) = (firstBroken a).or (firstBroken b) := by
  induction a with
  | nil => rfl
  | cons rule rest ih =>
    cases h : rule.holds with
    | false => simp [firstBroken, h]
    | true => simpa [firstBroken, h] using ih

/-- A list of rules reports the first fault of a part: nothing if there is none, and otherwise its
    reason under the text of its place. -/
structure Reports (tell : Place → String) (rules : List Rule) (faults : Faults) : Prop where
  clean : firstBroken rules = none → faults.Clean
  first : ∀ v, firstBroken rules = some v →
    ∃ place, First faults place v.reason ∧ v.field = tell place

namespace Reports

variable {α : Type} {tell : Place → String} {rules others : List Rule}

/-- Nothing is reported just if there is no fault. -/
theorem none_iff (h : Reports tell rules F) : firstBroken rules = none ↔ F.Clean := by
  refine ⟨h.clean, ?_⟩
  intro hclean
  refine Option.eq_none_iff_forall_ne_some.mpr fun v hv => ?_
  obtain ⟨place, hfirst, -⟩ := h.first v hv
  exact hclean _ _ hfirst.fault

/-- What is reported is the first fault. -/
theorem some_iff (h : Reports tell rules F) {v : Violation} :
    firstBroken rules = some v ↔ ∃ place, First F place v.reason ∧ v.field = tell place := by
  refine ⟨h.first v, ?_⟩
  rintro ⟨place, hfirst, hfield⟩
  cases hbroken : firstBroken rules with
  | none => exact absurd hfirst.fault (h.clean hbroken _ _)
  | some v' =>
    -- What is reported is a first fault as well, so it is the same one.
    obtain ⟨place', hfirst', hfield'⟩ := h.first v' hbroken
    obtain ⟨rfl, hreason⟩ := hfirst.unique hfirst'
    have hsame : v' = v := by
      show Violation.mk v'.field v'.reason = ⟨v.field, v.reason⟩
      rw [hfield, hfield', hreason]
    rw [hsame]

/-! ### Single rules -/

/-- No rules report that there are no faults. -/
theorem nothing : Reports tell [] free :=
  ⟨fun _ _ _ => id, nofun⟩

/-- A single rule reports whether it is broken, if its field is the place. -/
theorem rule {rule : Rule} (h : rule.violation.field = tell []) :
    Reports tell [rule] (broken rule.holds rule.violation.reason) := by
  constructor
  · intro hnone place reason hfault
    have hholds : rule.holds = true := by
      simpa using firstBroken_eq_none_iff.mp hnone
    exact Bool.false_ne_true (hfault.1.symm.trans hholds)
  · intro v hv
    cases hholds : rule.holds with
    | true =>
      rw [firstBroken, if_pos hholds] at hv
      cases hv
    | false =>
      rw [firstBroken, if_neg (by simp [hholds])] at hv
      cases hv
      exact ⟨[], ⟨⟨rfl, rfl, rfl⟩, fun _ _ hother => .inl hother.2⟩, h⟩

/-- The rule for a name that may be empty reports whether it is broken. -/
theorem namedIfGiven {kind : NameKind} {field value : String} (h : field = tell []) :
    Reports tell (namedIfGiven kind field value) (unnamedIfGiven kind value) := by
  have hnamed : Reports tell [named kind field value] (unnamed kind value) := rule h
  unfold Rule.namedIfGiven unnamedIfGiven
  by_cases hvalue : value = ""
  · rw [if_pos (String.isEmpty_iff.mpr hvalue)]
    exact ⟨fun _ _ _ hfault => hfault.1 hvalue, nofun⟩
  · rw [if_neg fun hempty => hvalue (String.isEmpty_iff.mp hempty)]
    simpa only [ne_eq, hvalue, not_false_eq_true, true_and] using hnamed

/-! ### Optional parts -/

/-- A part that has to be there is missing, or its rules report what is wrong with it. -/
theorem required {field : String} {value : Option α} {rulesOf : α → List Rule}
    {faults : α → Faults} (h : field = tell [])
    (part : ∀ a, Reports tell (rulesOf a) (faults a)) :
    Reports tell (required field value rulesOf) (ofRequired value faults) := by
  cases value with
  | none =>
    constructor
    · exact fun hnone => absurd hnone (Option.some_ne_none _)
    · intro v hv
      cases hv
      refine ⟨[], ⟨.inl ⟨rfl, rfl, rfl⟩, ?_⟩, h⟩
      rintro other reason' (⟨-, hplace, hreason⟩ | ⟨a, hvalue, -⟩)
      · exact .inl ⟨hplace, hreason⟩
      · cases hvalue
  | some a =>
    rw [ofRequired_some]
    exact ⟨(part a).clean, (part a).first⟩

/-- A part of which nothing more is asked than that it is there. -/
theorem present {field : String} {value : Option α} (h : field = tell []) :
    Reports tell [present field value] (ofRequired value fun _ => free) := by
  have hpresent : Reports tell (Rule.required field value fun _ => [])
      (ofRequired value fun _ => free) :=
    required h fun _ => nothing
  cases value <;> exact hpresent

/-- The rules for an optional part report its faults, if those for its value do. -/
theorem optional {value : Option α} {rulesOf : α → List Rule} {faults : α → Faults}
    (part : ∀ a, Reports tell (rulesOf a) (faults a)) :
    Reports tell (optional value rulesOf) (ofOptional value faults) := by
  cases value with
  | none => exact ⟨fun _ _ _ ⟨_, hvalue, _⟩ => Option.some_ne_none _ hvalue.symm, nofun⟩
  | some a =>
    rw [ofOptional_some]
    exact part a

/-! ### Parts in their order -/

/-- **Rules report the first fault part by part**, if they check the parts in the order of the steps
    that lead to them. -/
theorem part {step : Step} {parts : List (Step × Faults)}
    (later : ∀ part ∈ parts, step.number < part.1.number)
    (first : Reports (fun below => tell (step :: below)) rules F)
    (rest : Reports tell others (ofParts parts)) :
    Reports tell (rules ++ others) (ofParts ((step, F) :: parts)) := by
  constructor
  · intro hnone
    rw [firstBroken_append, Option.or_eq_none_iff] at hnone
    rw [clean_ofParts_iff, List.forall_mem_cons]
    exact ⟨first.clean hnone.1, clean_ofParts_iff.mp (rest.clean hnone.2)⟩
  · -- Either this part has the first fault, or it is clean and the others decide.
    intro v hv
    rw [firstBroken_append] at hv
    cases hbroken : firstBroken rules with
    | some v' =>
      rw [hbroken] at hv
      cases hv
      obtain ⟨below, hfirst, hfield⟩ := first.first _ hbroken
      exact ⟨step :: below, hfirst.ofHead later, hfield⟩
    | none =>
      rw [hbroken] at hv
      obtain ⟨place, hfirst, hfield⟩ := rest.first v hv
      exact ⟨place, hfirst.ofTail (first.clean hbroken), hfield⟩

/-- Parts that are counted are checked one after the other. -/
theorem numbered {stepTo : Nat → α → Step} (counts : ∀ i a, (stepTo i a).number = i)
    {faults : α → Faults} {n : Nat} {a : α} {l : List α}
    (first : Reports (fun below => tell (stepTo n a :: below)) rules (faults a))
    (rest : Reports tell others (ofNumbered stepTo faults (n + 1) l)) :
    Reports tell (rules ++ others) (ofNumbered stepTo faults n (a :: l)) := by
  refine part ?_ first rest
  intro p hp
  obtain ⟨⟨b, i⟩, hmem, rfl⟩ := List.mem_map.mp hp
  rw [counts, counts]
  exact List.le_snd_of_mem_zipIdx hmem

/-- No rules report the faults of an empty list. -/
theorem noneNumbered {stepTo : Nat → α → Step} {faults : α → Faults} {n : Nat} :
    Reports tell [] (ofNumbered stepTo faults n []) :=
  ⟨fun _ => clean_ofNumbered_iff.mpr nofun, nofun⟩

/-- No rules report the faults of a form without fields. -/
theorem noFields {n : Nat} : Reports tell [] (ofFields n []) :=
  noneNumbered

/-- The rules of a field are checked before those of the fields that are declared after it. -/
theorem field {n : Nat} {name : String} {fields : List (String × Faults)}
    (first : Reports (fun below => tell (.field n name :: below)) rules F)
    (rest : Reports tell others (ofFields (n + 1) fields)) :
    Reports tell (rules ++ others) (ofFields n ((name, F) :: fields)) :=
  numbered (fun _ _ => rfl) first rest

/-- The rules for the last field of a form report its faults. -/
theorem lastField {n : Nat} {name : String}
    (h : Reports (fun below => tell (.field n name :: below)) rules F) :
    Reports tell rules (ofFields n [(name, F)]) := by
  have hfields : Reports tell (rules ++ []) (ofFields n [(name, F)]) := field h noFields
  rwa [List.append_nil] at hfields

/-- A field with a single rule. -/
theorem fieldRule {n : Nat} {name : String} {rule : Rule} {fields : List (String × Faults)}
    (h : rule.violation.field = tell [.field n name])
    (rest : Reports tell others (ofFields (n + 1) fields)) :
    Reports tell (rule :: others)
      (ofFields n ((name, broken rule.holds rule.violation.reason) :: fields)) :=
  field (Reports.rule h) rest

/-- A field of which nothing more is asked than that it is there. -/
theorem fieldPresent {n : Nat} {name path : String} {value : Option α}
    {fields : List (String × Faults)} (h : path = tell [.field n name])
    (rest : Reports tell others (ofFields (n + 1) fields)) :
    Reports tell (Rule.present path value :: others)
      (ofFields n ((name, ofRequired value fun _ => free) :: fields)) :=
  field (present h) rest

/-- A field of which nothing is asked. -/
theorem fieldFree {n : Nat} {name : String} {fields : List (String × Faults)}
    (rest : Reports tell others (ofFields (n + 1) fields)) :
    Reports tell others (ofFields n ((name, free) :: fields)) :=
  field nothing rest

/-- The rules of the items of a list are checked in the order of the list. -/
theorem items {path : String} {rulesOf : String → α → List Rule} {faults : α → Faults}
    (item : ∀ i a, Reports (fun below => tell (.item i :: below)) (rulesOf s!"{path}[{i}]" a)
      (faults a)) (items : List α) :
    Reports tell (indexed path rulesOf items) (ofItems faults items) := by
  -- By induction on the items, whatever the number of the first of them.
  have hfrom : ∀ n, Reports tell
      ((items.zipIdx n).flatMap fun p => rulesOf s!"{path}[{p.2}]" p.1)
      (ofNumbered (fun i _ => .item i) faults n items) := by
    induction items with
    | nil => exact fun _ => noneNumbered
    | cons a rest ih => exact fun n => numbered (fun _ _ => rfl) (item n a) (ih (n + 1))
  exact hfrom 0

/-- The rule of a list itself is checked before those of its items. -/
theorem own {rule : Rule} {faults : α → Faults} {items : List α}
    (h : rule.violation.field = tell []) (rest : Reports tell others (ofItems faults items)) :
    Reports tell (rule :: others)
      (either (broken rule.holds rule.violation.reason) (ofItems faults items)) := by
  cases hholds : rule.holds with
  | true =>
    have hrules : firstBroken (rule :: others) = firstBroken others := by
      rw [firstBroken, if_pos hholds]
    rw [either_of_holds]
    exact ⟨fun hnone => rest.clean (hrules ▸ hnone), fun v hv => rest.first v (hrules ▸ hv)⟩
  | false =>
    have hrules : firstBroken (rule :: others) = some rule.violation := by
      rw [firstBroken, if_neg (by simp [hholds])]
    constructor
    · rw [hrules]
      exact fun hnone => absurd hnone (Option.some_ne_none _)
    · intro v hv
      rw [hrules] at hv
      cases hv
      refine ⟨[], ⟨.inl ⟨rfl, rfl, rfl⟩, ?_⟩, h⟩
      rintro other reason' (⟨-, hplace, hreason⟩ | ⟨part, -, below, rfl, -⟩)
      · exact .inl ⟨hplace, hreason⟩
      · exact .inr (Place.before_cons _ _)

end Reports

end Rebac.Rule
