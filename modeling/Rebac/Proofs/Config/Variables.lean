import Rebac.Config.Variables
import Rebac.Proofs.Config.Setting

namespace Rebac.Config

open Rebac.Record

/-!
# What variables say about a setting

Variables are laid one over the other, each under the path that its name spells.

* `orderly_ofVariables` — the tree of variables is orderly.
* `Setting.MentionedBy` — the name of a variable is that of a setting, of a section in which it stands,
  or of something inside it.
* `Setting.Open` — every section that a tree gives on the way to a setting is a table, so that nothing is
  replaced.
* `Setting.ofVariables_of_unmentioned` — a setting that no variable mentions is not given.
* `Setting.ofVariables_of_last` — **the last variable that mentions a setting gives it**, if it has the name
  of the setting.
-/

/-! ### Values of variables -/

namespace VariableValue

/-- All items of a list have what each item has that can be read. -/
theorem forall_of_readAll {α : Type} {P : α → Prop} {close : Char} {item : Reader α}
    (hitem : ∀ cs a rest, item cs = some (a, rest) → P a) {fuel : Nat} {cs rest : List Char}
    {as : List α} (h : readAll close item fuel cs = some (as, rest)) : ∀ a ∈ as, P a := by
  induction fuel generalizing cs rest as with
  | zero => cases h
  | succ fuel ih =>
    unfold readAll at h
    split at h
    · cases h
    · next c more =>
      split at h
      · cases h
        simp
      · obtain ⟨⟨a, left⟩, ha, h⟩ := Option.bind_eq_some_iff.mp h
        have hfirst := hitem _ _ _ ha
        dsimp only at h
        split at h
        · obtain ⟨⟨bs, last⟩, hbs, h⟩ := Option.bind_eq_some_iff.mp h
          cases h
          exact List.forall_mem_cons.mpr ⟨hfirst, ih hbs⟩
        · split at h
          · cases h
            simpa using hfirst
          · cases h
        · cases h

/-- The tree of an entry is one that its reader reads. -/
theorem of_readEntry {P : Tree → Prop} {value : Reader Tree}
    (hvalue : ∀ cs t rest, value cs = some (t, rest) → P t) {cs rest : List Char} {e : String × Tree}
    (h : readEntry value cs = some (e, rest)) : P e.2 := by
  unfold readEntry at h
  obtain ⟨⟨name, left⟩, -, h⟩ := Option.bind_eq_some_iff.mp h
  dsimp only at h
  split at h
  · obtain ⟨⟨t, last⟩, ht, h⟩ := Option.bind_eq_some_iff.mp h
    cases h
    exact hvalue _ _ _ ht
  · cases h

/-- The table of entries is orderly if their trees are. -/
theorem orderly_foldl_put {entries done : List (String × Tree)}
    (hentries : ∀ e ∈ entries, e.2.Orderly) (hdone : Tree.Ascending done ∧ Tree.EntriesOrderly done) :
    Tree.Ascending (entries.foldl (fun done e => Tree.put e.1 e.2 done) done)
      ∧ Tree.EntriesOrderly (entries.foldl (fun done e => Tree.put e.1 e.2 done) done) := by
  induction entries generalizing done with
  | nil => exact hdone
  | cons e rest ih =>
    obtain ⟨he, hrest⟩ := List.forall_mem_cons.mp hentries
    exact ih hrest (Tree.orderly_put hdone he)

/-- A value is orderly if the values inside it are. -/
theorem orderly_of_readBare {value : Reader Tree}
    (hvalue : ∀ cs t rest, value cs = some (t, rest) → t.Orderly) {cs rest : List Char} {t : Tree}
    (h : readBare value cs = some (t, rest)) : t.Orderly := by
  unfold readBare at h
  dsimp only at h
  split at h
  · cases h; trivial
  · cases h; trivial
  · split at h
    · obtain ⟨⟨entries, last⟩, hentries, h⟩ := Option.map_eq_some_iff.mp h
      cases h
      have heach := forall_of_readAll (fun cs e rest he => of_readEntry hvalue he) hentries
      exact orderly_foldl_put heach ⟨List.Pairwise.nil, trivial⟩
    · obtain ⟨⟨items, last⟩, hitems, h⟩ := Option.map_eq_some_iff.mp h
      cases h
      exact Tree.itemsOrderly_iff.mpr (forall_of_readAll hvalue hitems)
    · obtain ⟨⟨s, last⟩, -, h⟩ := Option.map_eq_some_iff.mp h
      cases h; trivial
    · split at h
      · cases h; trivial
      · cases h
    · cases h; trivial

/-- What is read from the front of a value is orderly. -/
theorem orderly_of_read {fuel : Nat} {cs rest : List Char} {t : Tree}
    (h : read fuel cs = some (t, rest)) : t.Orderly := by
  induction fuel generalizing cs rest t with
  | zero => cases h
  | succ fuel ih =>
    obtain ⟨⟨u, left⟩, hu, h⟩ := Option.map_eq_some_iff.mp h
    cases h
    exact orderly_of_readBare (fun cs t rest ht => ih ht) hu

end VariableValue

namespace Tree

/-- The value of a variable is orderly. -/
theorem orderly_ofVariable (value : String) : (Tree.ofVariable value).Orderly := by
  unfold Tree.ofVariable
  dsimp only
  split
  · next h => exact VariableValue.orderly_of_read h
  · trivial

variable {t : Tree} {v : Variable}

/-- A tree under a path is orderly if the tree is. -/
theorem orderly_under (h : t.Orderly) (path : List String) : (t.under path).Orderly := by
  induction path with
  | nil => exact h
  | cons name path ih => exact ⟨List.pairwise_singleton _ _, ih, trivial⟩

/-- One more variable leaves an orderly tree orderly. -/
theorem orderly_withVariable (h : t.Orderly) : (t.withVariable v).Orderly := by
  unfold withVariable
  split
  · exact orderly_merge _ _ h (orderly_under (orderly_ofVariable v.2) _)
  · exact h

/-- Any number of variables leaves an orderly tree orderly. -/
theorem orderly_foldl_withVariable {vs : List Variable} (h : t.Orderly) :
    (vs.foldl withVariable t).Orderly := by
  induction vs generalizing t with
  | nil => exact h
  | cons v vs ih => exact ih (orderly_withVariable h)

/-- **What the variables say is orderly.** -/
theorem orderly_ofVariables (vs : List Variable) : (ofVariables vs).Orderly :=
  orderly_foldl_withVariable ⟨List.Pairwise.nil, trivial⟩

end Tree

/-! ### Sections that are tables -/

namespace Setting

variable {fs : Fields} {sh : Shape} {under t x : Tree} {p : List String}

/-- Every section that a tree gives on the way to a setting is a table. -/
def Open : {fs : Fields} → {sh : Shape} → Setting fs sh → Tree → Prop
  | _, _, here _ _, t => t.IsTable
  | _, _, there k, t => k.Open t
  | _, _, inside name k, t => t.IsTable ∧ ∀ u, t.member? name = some u → k.Open u

instance Open.decidable : {fs : Fields} → {sh : Shape} → (k : Setting fs sh) → (t : Tree) →
    Decidable (k.Open t)
  | _, _, here _ _, t => inferInstanceAs (Decidable t.IsTable)
  | _, _, there k, t => Open.decidable k t
  | _, _, inside name k, t =>
    have : Decidable (∀ u, t.member? name = some u → k.Open u) :=
      match t.member? name with
      | none => isTrue fun u hu => by cases hu
      | some u => have := Open.decidable k u; decidable_of_iff (k.Open u) (by simp)
    inferInstanceAs (Decidable (t.IsTable ∧ ∀ u, t.member? name = some u → k.Open u))

/-- A tree with a section on the way to a setting is a table. -/
theorem Open.isTable {k : Setting fs sh} (h : k.Open t) : t.IsTable := by
  induction k with
  | here name single => exact h
  | there k ih => exact ih h
  | inside name k ih => exact h.1

/-- A tree without entries says nothing of a setting. -/
theorem open_empty (k : Setting fs sh) (source : Source) : k.Open (.table source []) := by
  induction k with
  | here name single => trivial
  | there k ih => exact ih
  | inside name k ih => exact ⟨trivial, fun u hu => by cases hu⟩

/-- An empty table gives no setting. -/
theorem given?_empty (k : Setting fs sh) (source : Source) : k.given? (.table source []) = none := by
  induction k with
  | here name single => rfl
  | there k ih => exact ih
  | inside name k ih => rfl

/-- Sections that are tables are merged. -/
theorem Open.not_replaced {k : Setting fs sh} (hunder : k.Open under) (h : k.Open t) :
    ¬ k.Replaced under t := by
  induction k generalizing under t with
  | here name single => exact not_not.mpr ⟨hunder, h⟩
  | there k ih =>
    rw [Replaced, Tree.others_of_isTable hunder.isTable, Tree.others_of_isTable h.isTable]
    exact ih hunder h
  | inside name k ih =>
    rintro (hnot | ⟨u, v, hu, hv, hreplaced⟩)
    · exact hnot ⟨hunder.1, h.1⟩
    · exact ih (hunder.2 u hu) (h.2 v hv) hreplaced

/-- If the sections on the way to a setting are tables in two trees, they are in the one laid over
    the other. -/
theorem Open.merge {k : Setting fs sh} (horderly : t.Orderly) (hunder : k.Open under)
    (h : k.Open t) : k.Open (under.merge t) := by
  induction k generalizing under t with
  | here name single => exact Tree.isTable_merge_iff.mpr h
  | there k ih => exact ih horderly hunder h
  | inside name k ih =>
    refine ⟨Tree.isTable_merge_iff.mpr h.1, fun w hw => ?_⟩
    rw [Tree.member?_merge horderly hunder.1 h.1] at hw
    cases hu : under.member? name with
    | none =>
      rw [hu, Tree.layered_none_left] at hw
      exact h.2 w hw
    | some u =>
      cases hv : t.member? name with
      | none =>
        rw [hv, Tree.layered_none_right] at hw
        exact hunder.2 w hw
      | some v =>
        rw [hu, hv] at hw
        cases hw
        exact ih (horderly.member? hv) (hunder.2 u hu) (h.2 v hv)

/-- A tree that gives a setting within tables makes all sections on the way tables. -/
theorem Open.merge_of_given {k : Setting fs sh} (horderly : t.Orderly) (h : k.Open t)
    (hgiven : k.given? t = some x) : k.Open (under.merge t) := by
  induction k generalizing under t with
  | here name single => exact Tree.isTable_merge_iff.mpr h
  | there k ih =>
    rw [given?, Tree.others_of_isTable (Open.isTable (k := k) h)] at hgiven
    exact ih horderly h hgiven
  | inside name k ih =>
    obtain ⟨v, hv, hgiven⟩ := Option.bind_eq_some_iff.mp hgiven
    by_cases hunder : under.IsTable
    · refine ⟨Tree.isTable_merge_iff.mpr h.1, fun w hw => ?_⟩
      rw [Tree.member?_merge horderly hunder h.1, hv] at hw
      cases hu : under.member? name with
      | none =>
        rw [hu] at hw
        cases hw
        exact h.2 v hv
      | some u =>
        rw [hu] at hw
        cases hw
        exact ih (horderly.member? hv) (h.2 v hv) hgiven
    · -- What is no table below is gone, so the sections are those of the upper tree.
      rw [Tree.merge_of_not fun htables => hunder htables.1]
      exact h

/-! ### One variable -/

/-- A tree under a path has a single member, that of the first name of the path. -/
theorem member?_under_cons {name other : String} :
    (x.under (other :: p)).member? name = if other = name then some (x.under p) else none := by
  show Tree.find? name [(other, x.under p)] = _
  simp [Tree.find?]

/-- A tree under a path makes the sections on the path tables; it puts nothing else in the place of a
    section of a setting, unless the path is that of such a section. -/
theorem open_under (k : Setting fs sh) (h : p <+: k.path → p = k.path) : k.Open (x.under p) := by
  induction k generalizing p with
  | here name single =>
    cases p with
    | nil => cases h List.nil_prefix
    | cons other p => trivial
  | there k ih => exact ih h
  | inside name k ih =>
    cases p with
    | nil => cases h List.nil_prefix
    | cons other p =>
      refine ⟨trivial, fun u hu => ?_⟩
      rw [member?_under_cons] at hu
      split at hu
      · next heq =>
        cases hu
        subst heq
        exact ih fun hp => List.cons_injective (h ((List.prefix_cons_inj _).mpr hp))
      · cases hu

/-- What stands under the path of a setting is given for it. -/
theorem given?_under_path (k : Setting fs sh) : k.given? (x.under k.path) = some x := by
  induction k with
  | here name single => exact member?_under_cons.trans (if_pos rfl)
  | there k ih =>
    have htable : (x.under k.path).IsTable := (k.open_under fun _ => rfl).isTable
    rw [path, given?, Tree.others_of_isTable htable, ih]
  | inside name k ih =>
    rw [path, given?, member?_under_cons, if_pos rfl]
    exact ih

/-- A tree under another path gives nothing for a setting. -/
theorem given?_under_other (k : Setting fs sh) (habove : ¬ p <+: k.path) (hinside : ¬ k.path <+: p) :
    k.given? (x.under p) = none := by
  have hopen : k.Open (x.under p) := k.open_under fun h => absurd h habove
  induction k generalizing p with
  | here name single =>
    cases p with
    | nil => exact absurd List.nil_prefix habove
    | cons other p =>
      refine member?_under_cons.trans (if_neg fun heq => hinside ?_)
      exact heq ▸ List.prefix_append [other] p
  | there k ih =>
    rw [given?, Tree.others_of_isTable hopen.isTable]
    exact ih habove hinside hopen
  | inside name k ih =>
    cases p with
    | nil => exact absurd List.nil_prefix habove
    | cons other p =>
      rw [given?, member?_under_cons]
      by_cases heq : other = name
      · -- Behind a common name, the rests of the paths still are apart.
        subst heq
        rw [if_pos rfl]
        refine ih (fun h => habove ((List.prefix_cons_inj _).mpr h))
          (fun h => hinside ((List.prefix_cons_inj _).mpr h)) (hopen.2 _ ?_)
        exact member?_under_cons.trans (if_pos rfl)
      · rw [if_neg heq]
        rfl

/-! ### All variables -/

variable {v : Variable} {vs before after : List Variable}

/-- The name of a variable is that of a setting, of a section in which it stands, or of something inside
    it. -/
def MentionedBy (k : Setting fs sh) (v : Variable) : Prop :=
  ∃ p, variablePath? v.1 = some p ∧ (p <+: k.path ∨ k.path <+: p)

instance (k : Setting fs sh) (v : Variable) : Decidable (k.MentionedBy v) :=
  match h : variablePath? v.1 with
  | none => isFalse fun ⟨p, hp, _⟩ => by rw [h] at hp; cases hp
  | some p => decidable_of_iff (p <+: k.path ∨ k.path <+: p)
    ⟨fun hp => ⟨p, h, hp⟩, fun ⟨q, hq, hp⟩ => by rw [h] at hq; cases hq; exact hp⟩

/-- A variable that does not mention a setting leaves it as it is. -/
theorem withVariable_of_unmentioned {k : Setting fs sh} (h : ¬ k.MentionedBy v) (hopen : k.Open t) :
    k.Open (t.withVariable v) ∧ k.given? (t.withVariable v) = k.given? t := by
  unfold Tree.withVariable
  cases hpath : variablePath? v.1 with
  | none => exact ⟨hopen, rfl⟩
  | some p =>
    have habove : ¬ p <+: k.path := fun hp => h ⟨p, hpath, .inl hp⟩
    have hinside : ¬ k.path <+: p := fun hp => h ⟨p, hpath, .inr hp⟩
    have horderly := Tree.orderly_under (Tree.orderly_ofVariable v.2) p
    have hvariable : k.Open ((Tree.ofVariable v.2).under p) :=
      k.open_under fun hp => absurd hp habove
    refine ⟨hopen.merge horderly hvariable, ?_⟩
    show k.given? (t.merge ((Tree.ofVariable v.2).under p)) = k.given? t
    rw [k.given?_merge horderly (hopen.not_replaced hvariable), k.given?_under_other habove hinside,
      Tree.layered_none_right]

/-- Variables that do not mention a setting leave it as it is. -/
theorem foldl_withVariable_of_unmentioned {k : Setting fs sh} (h : ∀ v ∈ vs, ¬ k.MentionedBy v)
    (hopen : k.Open t) : k.Open (vs.foldl Tree.withVariable t)
      ∧ k.given? (vs.foldl Tree.withVariable t) = k.given? t := by
  induction vs generalizing t with
  | nil => exact ⟨hopen, rfl⟩
  | cons v vs ih =>
    obtain ⟨hv, hvs⟩ := List.forall_mem_cons.mp h
    obtain ⟨hopen', hgiven⟩ := withVariable_of_unmentioned hv hopen
    obtain ⟨hlast, hkept⟩ := ih hvs hopen'
    exact ⟨hlast, hkept.trans hgiven⟩

/-- A setting that no variable mentions is not given, and nothing is in the place of its sections. -/
theorem ofVariables_of_unmentioned {k : Setting fs sh} (h : ∀ v ∈ vs, ¬ k.MentionedBy v) :
    k.Open (Tree.ofVariables vs) ∧ k.given? (Tree.ofVariables vs) = none := by
  obtain ⟨hopen, hgiven⟩ := foldl_withVariable_of_unmentioned h (k.open_empty .environment)
  exact ⟨hopen, hgiven.trans (k.given?_empty .environment)⟩

/-- A variable with the name of a setting gives it, whatever was there. -/
theorem withVariable_of_path {k : Setting fs sh} (hpath : variablePath? v.1 = some k.path) :
    k.Open (t.withVariable v)
      ∧ ∃ x, k.given? (t.withVariable v) = some x ∧ ReadAs sh x (Tree.ofVariable v.2) := by
  have horderly := Tree.orderly_under (Tree.orderly_ofVariable v.2) k.path
  have hgiven := k.given?_under_path (x := Tree.ofVariable v.2)
  have hvariable : k.Open ((Tree.ofVariable v.2).under k.path) := k.open_under fun _ => rfl
  unfold Tree.withVariable
  rw [hpath]
  exact ⟨hvariable.merge_of_given horderly hgiven, k.given?_merge_of_given t horderly hgiven⟩

/-- **The last variable that mentions a setting gives it**, if it has the name of the setting. -/
theorem ofVariables_of_last {k : Setting fs sh} (hpath : variablePath? v.1 = some k.path)
    (hafter : ∀ w ∈ after, ¬ k.MentionedBy w) :
    ∃ x, k.given? (Tree.ofVariables (before ++ v :: after)) = some x
      ∧ ReadAs sh x (Tree.ofVariable v.2) := by
  obtain ⟨hopen, x, hx, hread⟩ :=
    withVariable_of_path (t := before.foldl Tree.withVariable (.table .environment [])) hpath
  have hkept := (foldl_withVariable_of_unmentioned hafter hopen).2
  refine ⟨x, ?_, hread⟩
  rw [Tree.ofVariables, List.foldl_append, List.foldl_cons, hkept, hx]

end Setting

end Rebac.Config
