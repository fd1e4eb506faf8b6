import Rebac.Config.Load

namespace Rebac.Config

/-!
# What a file of variables adds

The variables of a file are added to those of the process behind them, as if the process had been given
them.

* `defined` — the variables that the lines of a file define, one after the other; `addLines_eq` says that
  the lines are added one by one.
* `withFileVariables_eq` — **each name that the process has not set is added**, with the value that
  the file gives it first.
-/

variable {environment stored : List Variable} {lines : List (Option (List Char))} {name : String}
  {v : Variable}

/-! ### Values under a name -/

/-- The first variable of a name is the one that counts. -/
theorem valueOf?_cons (v : Variable) (vs : List Variable) :
    valueOf? name (v :: vs) = if v.1 = name then some v.2 else valueOf? name vs := by
  unfold valueOf?
  rw [List.find?_cons]
  split
  · next h => rw [if_pos (of_decide_eq_true h)]; rfl
  · next h => rw [if_neg (of_decide_eq_false h)]

/-- Of two lists of variables the first one has priority. -/
theorem valueOf?_append (vs ws : List Variable) :
    valueOf? name (vs ++ ws) = (valueOf? name vs).or (valueOf? name ws) := by
  induction vs with
  | nil => rfl
  | cons v vs ih =>
    rw [List.cons_append, valueOf?_cons, valueOf?_cons, ih]
    split <;> rfl

/-- A variable that is set already keeps its value. -/
theorem withNew_of_set (h : (valueOf? v.1 environment).isSome) : withNew environment v = environment :=
  if_pos h

/-- A variable that is not set is added. -/
theorem withNew_of_new (h : valueOf? v.1 environment = none) :
    withNew environment v = environment ++ [v] :=
  if_neg (by rw [h]; exact Bool.false_ne_true)

/-- What is set stays set, and a variable that was added is set. -/
theorem isSome_valueOf?_withNew (h : name = v.1 ∨ (valueOf? name environment).isSome) :
    (valueOf? name (withNew environment v)).isSome := by
  cases hold : valueOf? v.1 environment with
  | some value =>
    have hset : (valueOf? v.1 environment).isSome := by rw [hold]; rfl
    rw [withNew_of_set hset]
    rcases h with rfl | h
    · exact hset
    · exact h
  | none =>
    rw [withNew_of_new hold, valueOf?_append, valueOf?_cons, Option.isSome_or]
    rcases h with rfl | h
    · rw [if_pos rfl, Option.isSome_some, Bool.or_true]
    · rw [h, Bool.true_or]

/-! ### Line by line -/

/-- The variables that lines define, up to the first line that cannot be read. A reference means the value
    that the name has by then. -/
def defined (environment : List Variable) : List (Option (List Char)) → List Variable
  | [] => []
  | none :: _ => []
  | some line :: rest =>
    match lineVariable? (fun name => (valueOf? name environment).getD "") line with
    | none => []
    | some none => defined environment rest
    | some (some v) => v :: defined (withNew environment v) rest

/-- What the lines above have given is set by then. -/
theorem referred_eq (h : ∀ v ∈ stored, (valueOf? v.1 environment).isSome) :
    referred environment stored = fun name => (valueOf? name environment).getD "" := by
  funext name
  unfold referred
  cases hset : valueOf? name environment with
  | some value => rfl
  | none =>
    have hnone : valueOf? name stored = none := by
      rw [valueOf?, Option.map_eq_none_iff, List.find?_eq_none]
      intro v hv heq
      have hv := h v hv
      rw [of_decide_eq_true heq, hset] at hv
      cases hv
    rw [hnone]

/-- Lines add the variables that they define one by one. A variable that an earlier line has given
    is set by then, so a reference means its value in the environment. -/
theorem addLines_eq (h : ∀ v ∈ stored, (valueOf? v.1 environment).isSome) :
    addLines environment stored lines = (defined environment lines).foldl withNew environment := by
  induction lines generalizing environment stored with
  | nil => rfl
  | cons first rest ih =>
    cases first with
    | none => rfl
    | some line =>
      rw [addLines, defined, referred_eq h]
      cases lineVariable? (fun name => (valueOf? name environment).getD "") line with
      | none => rfl
      | some found =>
        cases found with
        | none => exact ih h
        | some v =>
          refine ih (List.forall_mem_cons.mpr ⟨isSome_valueOf?_withNew (.inl rfl), fun w hw => ?_⟩)
          exact isSome_valueOf?_withNew (.inr (h w hw))

/-- Each name that is not set is added, with the first value that it is given. -/
theorem foldl_withNew (vs environment : List Variable) :
    ∃ added, vs.foldl withNew environment = environment ++ added
    ∧ ∀ v, v ∈ added ↔ valueOf? v.1 environment = none ∧ valueOf? v.1 vs = some v.2 := by
  induction vs generalizing environment with
  | nil => exact ⟨[], (List.append_nil _).symm, fun v => by simp [valueOf?]⟩
  | cons w vs ih =>
    obtain ⟨added, hadded, hmem⟩ := ih (withNew environment w)
    rw [List.foldl_cons, hadded]
    cases hold : valueOf? w.1 environment with
    | some value =>
      rw [withNew_of_set (by rw [hold]; rfl)] at hmem ⊢
      refine ⟨added, rfl, fun v => (hmem v).trans (and_congr_right fun hnone => ?_)⟩
      -- A name that is not set is another one than the first.
      have hother : w.1 ≠ v.1 := fun heq => by rw [heq, hnone] at hold; cases hold
      rw [valueOf?_cons, if_neg hother]
    | none =>
      rw [withNew_of_new hold] at hmem ⊢
      refine ⟨w :: added, List.append_assoc .., fun v => ?_⟩
      rw [List.mem_cons, hmem, valueOf?_append, valueOf?_cons, valueOf?_cons, Option.or_eq_none_iff]
      by_cases hname : w.1 = v.1
      · rw [if_pos hname, if_pos hname, ← hname, hold]
        simp [Prod.ext_iff, hname, eq_comm]
      · rw [if_neg hname, if_neg hname]
        have hother : v ≠ w := fun heq => hname (heq ▸ rfl)
        simp [hother, valueOf?]

/-! ### The file -/

/-- The variables that the file of variables defines for a process. -/
def fileVariables (files : String → Option String) (environment : List Variable) : List Variable :=
  match files variableFileName with
  | some text => defined environment (linesOf text)
  | none => []

/-- **The file of variables adds each name that the process has not set**, behind what the process has
    set, with the value that the file gives it first. -/
theorem withFileVariables_eq (files : String → Option String) (environment : List Variable) :
    ∃ added, withFileVariables files environment = environment ++ added
    ∧ ∀ v, v ∈ added ↔ valueOf? v.1 environment = none
      ∧ valueOf? v.1 (fileVariables files environment) = some v.2 := by
  have hfile : withFileVariables files environment
      = (fileVariables files environment).foldl withNew environment := by
    unfold withFileVariables fileVariables
    cases files variableFileName with
    | none => rfl
    | some text => exact addLines_eq (by simp)
  rw [hfile]
  exact foldl_withNew _ _

end Rebac.Config
