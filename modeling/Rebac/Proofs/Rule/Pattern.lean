import Mathlib.Computability.Language
import Rebac.Proofs.Rule.Valid

namespace Rebac.Rule

/-!
# Expressions for names

The names of each kind are the texts of an expression. It is made of classes of characters, which
stand one after the other or as alternatives, and are repeated as often as their bounds allow.

* `Pattern`, `Pattern.language` — an expression, and the texts that belong to it.
* `Pattern.mem_times_oneOf_iff` — a class that is repeated: the bounds are on the length of the text,
  and the class is on each of its characters.
* `NameKind.pattern` — the expression for the names of each kind.
* `tenantIdChars_iff`, `identifierChars_iff`, `entityIdChars_iff` — the names of each kind are the texts
  of their expression.
* `named_iff_mem_language` — **a field is accepted as a name just if its text belongs to the
  expression**, as a whole.
-/

/-- A class of characters: those in a range, both ends included, and some others. -/
structure CharClass where
  ranges : List (Char × Char)
  others : List Char

/-- A character belongs to a class. -/
def CharClass.Has (k : CharClass) (c : Char) : Prop :=
  (∃ r ∈ k.ranges, r.1 ≤ c ∧ c ≤ r.2) ∨ c ∈ k.others

/-- An expression for texts. -/
inductive Pattern where
  /-- One character of a class. -/
  | oneOf (k : CharClass)
  /-- Two parts, one after the other. -/
  | seq (first second : Pattern)
  /-- One of two parts. -/
  | either (left right : Pattern)
  /-- A part several times over, within bounds. -/
  | times (part : Pattern) (least most : Nat)

namespace Pattern

/-- The texts that belong to an expression. -/
def language : Pattern → Language Char
  | oneOf k => {cs | ∃ c, k.Has c ∧ cs = [c]}
  | seq first second => first.language * second.language
  | either left right => left.language + right.language
  | times part least most => {cs | ∃ n, least ≤ n ∧ n ≤ most ∧ cs ∈ part.language ^ n}

variable {k : CharClass} {p q : Pattern} {cs : List Char} {least most n : Nat}

/-! ### Texts of an expression -/

/-- A class of characters stands for each of them alone. -/
theorem mem_oneOf_iff : cs ∈ (oneOf k).language ↔ ∃ c, k.Has c ∧ cs = [c] := Iff.rfl

/-- An alternative stands for what one of its sides does. -/
theorem mem_either_iff : cs ∈ (either p q).language ↔ cs ∈ p.language ∨ cs ∈ q.language := Iff.rfl

/-- A repetition stands for as many parts as its bounds allow. -/
theorem mem_times_iff :
    cs ∈ (times p least most).language ↔ ∃ n, least ≤ n ∧ n ≤ most ∧ cs ∈ p.language ^ n := Iff.rfl

/-- A character of a class, and then a text of an expression. -/
theorem mem_oneOf_seq_iff :
    cs ∈ (seq (oneOf k) q).language ↔ ∃ c rest, k.Has c ∧ rest ∈ q.language ∧ cs = c :: rest := by
  rw [language, Language.mem_mul]
  constructor
  · rintro ⟨_, ⟨c, hc, rfl⟩, rest, hrest, rfl⟩
    exact ⟨c, rest, hc, hrest, rfl⟩
  · rintro ⟨c, rest, hc, hrest, rfl⟩
    exact ⟨[c], ⟨c, hc, rfl⟩, rest, hrest, rfl⟩

/-- A text of an expression, and then a character of a class. -/
theorem mem_seq_oneOf_iff :
    cs ∈ (seq p (oneOf k)).language
      ↔ ∃ front c, front ∈ p.language ∧ k.Has c ∧ cs = front ++ [c] := by
  rw [language, Language.mem_mul]
  constructor
  · rintro ⟨front, hfront, _, ⟨c, hc, rfl⟩, rfl⟩
    exact ⟨front, c, hfront, hc, rfl⟩
  · rintro ⟨front, c, hfront, hc, rfl⟩
    exact ⟨front, hfront, [c], ⟨c, hc, rfl⟩, rfl⟩

/-- So many characters of a class. -/
theorem mem_pow_oneOf_iff :
    cs ∈ (oneOf k).language ^ n ↔ cs.length = n ∧ ∀ c ∈ cs, k.Has c := by
  induction n generalizing cs with
  | zero =>
    rw [pow_zero, Language.mem_one, List.length_eq_zero_iff]
    constructor
    · rintro rfl
      exact ⟨rfl, List.forall_mem_nil _⟩
    · rintro ⟨hnil, -⟩
      exact hnil
  | succ n ih =>
    rw [pow_succ', Language.mem_mul]
    constructor
    · rintro ⟨_, ⟨c, hc, rfl⟩, rest, hrest, rfl⟩
      obtain ⟨hlength, hall⟩ := ih.mp hrest
      exact ⟨congrArg Nat.succ hlength, List.forall_mem_cons.mpr ⟨hc, hall⟩⟩
    · rintro ⟨hlength, hall⟩
      obtain ⟨c, rest, rfl⟩ := List.exists_cons_of_length_eq_add_one hlength
      obtain ⟨hc, hrest⟩ := List.forall_mem_cons.mp hall
      exact ⟨[c], ⟨c, hc, rfl⟩, rest, ih.mpr ⟨Nat.succ.inj hlength, hrest⟩, rfl⟩

/-- **A class that is repeated.** The bounds are on the length of the text, and the class is on each of
    its characters. -/
theorem mem_times_oneOf_iff :
    cs ∈ (times (oneOf k) least most).language
      ↔ (least ≤ cs.length ∧ cs.length ≤ most) ∧ ∀ c ∈ cs, k.Has c := by
  simp only [mem_times_iff, mem_pow_oneOf_iff]
  constructor
  · rintro ⟨n, hleast, hmost, rfl, hall⟩
    exact ⟨⟨hleast, hmost⟩, hall⟩
  · rintro ⟨⟨hleast, hmost⟩, hall⟩
    exact ⟨cs.length, hleast, hmost, rfl, hall⟩

end Pattern

open Pattern

/-! ### The three expressions -/

/-- `[*]` -/
def starClass : CharClass := ⟨[], ['*']⟩

/-- `[a-zA-Z0-9_\-@\.:+]` -/
def tenantClass : CharClass :=
  ⟨[('a', 'z'), ('A', 'Z'), ('0', '9')], ['_', '-', '@', '.', ':', '+']⟩

/-- `[a-z]` -/
def lowerClass : CharClass := ⟨[('a', 'z')], []⟩

/-- `[a-z0-9]` -/
def lowerOrDigitClass : CharClass := ⟨[('a', 'z'), ('0', '9')], []⟩

/-- `[a-z0-9_]` -/
def identifierClass : CharClass := ⟨[('a', 'z'), ('0', '9')], ['_']⟩

/-- `[a-zA-Z0-9_]` -/
def entityStartClass : CharClass := ⟨[('a', 'z'), ('A', 'Z'), ('0', '9')], ['_']⟩

/-- `[a-zA-Z0-9/_|-]` -/
def entityClass : CharClass := ⟨[('a', 'z'), ('A', 'Z'), ('0', '9')], ['/', '_', '|', '-']⟩

/-- The expression for the names of a kind: `[a-zA-Z0-9_\-@\.:+]{1,128}|\*` for tenants,
    `[a-z][a-z0-9_]{1,62}[a-z0-9]` for identifiers, and `[a-zA-Z0-9_][a-zA-Z0-9/_|-]{0,127}|\*` for
    entities. -/
def NameKind.pattern : NameKind → Pattern
  | tenantId => .either (.times (.oneOf tenantClass) 1 128) (.oneOf starClass)
  | identifier =>
    .seq (.oneOf lowerClass) (.seq (.times (.oneOf identifierClass) 1 62) (.oneOf lowerOrDigitClass))
  | entityId =>
    .either (.seq (.oneOf entityStartClass) (.times (.oneOf entityClass) 0 127)) (.oneOf starClass)

section Classes

variable {c : Char}

/-- The characters of ids of tenants are those of their class. -/
theorem isTenantChar_iff : isTenantChar c = true ↔ tenantClass.Has c := by
  simp [isTenantChar, isLetter, isDigit, tenantClass, CharClass.Has, or_assoc]

/-- The small letters are those of their class. -/
theorem isLower_iff : isLower c = true ↔ lowerClass.Has c := by
  simp [isLower, lowerClass, CharClass.Has]

/-- Small letters and digits are those of their class. -/
theorem isLower_or_isDigit_iff : (isLower c || isDigit c) = true ↔ lowerOrDigitClass.Has c := by
  simp [isLower, isDigit, lowerOrDigitClass, CharClass.Has]

/-- The characters of identifiers are those of their class. -/
theorem isIdentifierChar_iff : isIdentifierChar c = true ↔ identifierClass.Has c := by
  simp [isIdentifierChar, isLower, isDigit, identifierClass, CharClass.Has, or_assoc]

/-- The first characters of ids of entities are those of their class. -/
theorem isEntityStart_iff : isEntityStart c = true ↔ entityStartClass.Has c := by
  simp [isEntityStart, isLetter, isDigit, entityStartClass, CharClass.Has, or_assoc]

/-- The characters of ids of entities are those of their class. -/
theorem isEntityChar_iff : isEntityChar c = true ↔ entityClass.Has c := by
  simp [isEntityChar, isLetter, isDigit, entityClass, CharClass.Has, or_assoc]

end Classes

/-! ### Names are the texts of their expression -/

section Names

variable {cs : List Char}

/-- The expression of the star stands for it alone. -/
theorem mem_star_iff : cs ∈ (oneOf starClass).language ↔ cs = ['*'] := by
  simp [mem_oneOf_iff, starClass, CharClass.Has]

/-- The ids of tenants are what their expression stands for. -/
theorem tenantIdChars_iff :
    tenantIdChars cs = true ↔ cs ∈ NameKind.tenantId.pattern.language := by
  rw [NameKind.pattern, mem_either_iff, mem_times_oneOf_iff, mem_star_iff, or_comm]
  simp [tenantIdChars, isTenantChar_iff]

/-- The last character of a text, with what stands before it. -/
theorem any_getLast?_iff {good : Char → Bool} :
    cs.getLast?.any good = true ↔ ∃ front c, good c = true ∧ cs = front ++ [c] := by
  rw [Option.any_eq_true]
  constructor
  · rintro ⟨c, hlast, hc⟩
    obtain ⟨front, hcs⟩ := List.getLast?_eq_some_iff.mp hlast
    exact ⟨front, c, hc, hcs⟩
  · rintro ⟨front, c, hc, rfl⟩
    exact ⟨c, List.getLast?_concat, hc⟩

/-- Identifiers are what their expression stands for. -/
theorem identifierChars_iff :
    identifierChars cs = true ↔ cs ∈ NameKind.identifier.pattern.language := by
  simp only [NameKind.pattern, mem_oneOf_seq_iff, mem_seq_oneOf_iff, mem_times_oneOf_iff]
  constructor
  · intro h
    cases cs with
    | nil => cases h
    | cons c rest =>
      simp only [identifierChars, Bool.and_eq_true, decide_eq_true_eq, List.all_eq_true,
        isLower_iff, isIdentifierChar_iff, any_getLast?_iff, isLower_or_isDigit_iff] at h
      obtain ⟨⟨⟨⟨hc, hleast⟩, hmost⟩, hall⟩, front, d, hd, rfl⟩ := h
      rw [List.length_append, List.length_singleton] at hleast hmost
      have hfront : ∀ c ∈ front, identifierClass.Has c :=
        fun c hmem => hall c (List.mem_append_left _ hmem)
      exact ⟨c, _, hc, ⟨front, d, ⟨⟨by omega, by omega⟩, hfront⟩, hd, rfl⟩, rfl⟩
  · rintro ⟨c, _, hc, ⟨front, d, ⟨⟨hleast, hmost⟩, hfront⟩, hd, rfl⟩, rfl⟩
    -- The last character belongs to the class of those before it as well.
    have hlast : isIdentifierChar d = true := by
      rw [isIdentifierChar, isLower_or_isDigit_iff.mpr hd, Bool.true_or]
    simp only [identifierChars, Bool.and_eq_true, decide_eq_true_eq, List.all_eq_true,
      any_getLast?_iff, List.length_append, List.length_singleton]
    refine ⟨⟨⟨⟨isLower_iff.mpr hc, by omega⟩, by omega⟩, ?_⟩, front, d, ?_, rfl⟩
    · intro c hmem
      rcases List.mem_append.mp hmem with hmem | hmem
      · exact isIdentifierChar_iff.mpr (hfront c hmem)
      · rw [List.mem_singleton.mp hmem]
        exact hlast
    · exact isLower_or_isDigit_iff.mpr hd

/-- The ids of entities are what their expression stands for. -/
theorem entityIdChars_iff :
    entityIdChars cs = true ↔ cs ∈ NameKind.entityId.pattern.language := by
  rw [NameKind.pattern, mem_either_iff, mem_oneOf_seq_iff, mem_star_iff, or_comm]
  simp only [mem_times_oneOf_iff]
  cases cs with
  | nil => simp [entityIdChars]
  | cons c rest => simp [entityIdChars, isEntityStart_iff, isEntityChar_iff, and_assoc]

end Names

/-- **A field is accepted as a name just if its text belongs to the expression for the kind**, as a
    whole, from its first character to its last. Otherwise the field is reported, with its text. -/
theorem named_iff_mem_language (kind : NameKind) (field value : String) :
    (firstBroken [named kind field value] = none ↔ value.toList ∈ kind.pattern.language)
    ∧ (firstBroken [named kind field value] = some ⟨field, .notNamed value kind⟩
        ↔ value.toList ∉ kind.pattern.language) := by
  have haccepts : kind.accepts value = true ↔ value.toList ∈ kind.pattern.language := by
    cases kind with
    | tenantId => exact tenantIdChars_iff
    | identifier => exact identifierChars_iff
    | entityId => exact entityIdChars_iff
  rw [← haccepts]
  cases hkind : kind.accepts value <;> simp [firstBroken, named, hkind]

/-- A line break at the end belongs to the text, and to no name. -/
example : NameKind.tenantId.accepts "t1\n" = false := by decide

end Rebac.Rule
