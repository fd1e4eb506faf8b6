namespace Rebac.Rule

/-!
# Well-formed names

Which strings may name a tenant, a kind or relation, and an entity.

* `NameKind.tenantId`: 1 to 128 letters, digits and `_-@.:+`, or a lone star.
* `NameKind.identifier`: 3 to 64 characters, a lower-case letter first, then lower-case letters,
  digits and underscores, no underscore at the end.
* `NameKind.entityId`: 1 to 128 letters, digits and `/_|-`, a letter, digit or underscore first, or a
  lone star.
-/

/-- An ASCII letter of either case. -/
def isLetter (c : Char) : Bool :=
  ('a' ≤ c && c ≤ 'z') || ('A' ≤ c && c ≤ 'Z')

/-- An ASCII lower-case letter. -/
def isLower (c : Char) : Bool :=
  'a' ≤ c && c ≤ 'z'

/-- An ASCII digit. -/
def isDigit (c : Char) : Bool :=
  '0' ≤ c && c ≤ '9'

/-- A character of a tenant id. -/
def isTenantChar (c : Char) : Bool :=
  isLetter c || isDigit c || c = '_' || c = '-' || c = '@' || c = '.' || c = ':' || c = '+'

/-- A character of an identifier. -/
def isIdentifierChar (c : Char) : Bool :=
  isLower c || isDigit c || c = '_'

/-- The first character of an entity id. -/
def isEntityStart (c : Char) : Bool :=
  isLetter c || isDigit c || c = '_'

/-- A later character of an entity id. -/
def isEntityChar (c : Char) : Bool :=
  isLetter c || isDigit c || c = '/' || c = '_' || c = '|' || c = '-'

/-- `true` iff the characters form a tenant id. -/
def tenantIdChars (cs : List Char) : Bool :=
  cs = ['*'] || (1 ≤ cs.length && cs.length ≤ 128 && cs.all isTenantChar)

/-- `true` iff the characters form an identifier. -/
def identifierChars : List Char → Bool
  | [] => false
  | c :: cs =>
    isLower c && 2 ≤ cs.length && cs.length ≤ 63 && cs.all isIdentifierChar
      && cs.getLast?.any fun c => isLower c || isDigit c

/-- `true` iff the characters form an entity id. -/
def entityIdChars : List Char → Bool
  | [] => false
  | c :: cs => (c = '*' && cs.isEmpty) || (isEntityStart c && cs.length ≤ 127 && cs.all isEntityChar)

/-- The three kinds of names. -/
inductive NameKind where
  | tenantId
  | identifier
  | entityId
  deriving DecidableEq

/-- `true` iff the string is a name of that kind. -/
def NameKind.accepts : NameKind → String → Bool
  | tenantId, s => tenantIdChars s.toList
  | identifier, s => identifierChars s.toList
  | entityId, s => entityIdChars s.toList

/-- What a string of that kind is called. -/
def NameKind.title : NameKind → String
  | tenantId => "a tenant id"
  | identifier => "a lowercase identifier"
  | entityId => "an entity id"

end Rebac.Rule
