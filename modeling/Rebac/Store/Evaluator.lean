import Rebac.Store.Basic
import Rebac.Message.Permission

namespace Rebac.Store

open Rebac.Message

/-!
# Answering permission questions

A permission is held by a subject on an entity when the relationship `entity#permission@subject` is
stored; no rules of a schema are followed.

* `check` asks for one entity, `lookup` for all entities of a kind, a page of relationships at a
  time.
-/

/-- The filter for relationships of a subject. A subject without a relation matches its id under
    every relation. -/
def subjectFilter (s : Subject) : SubjectFilter :=
  ⟨s.type, [s.id], s.relation⟩

/-- The filter with which a check is answered. -/
def checkFilter (e : Entity) (permission : String) (s : Subject) : TupleFilter :=
  ⟨some ⟨e.type, [e.id]⟩, permission, some (subjectFilter s)⟩

/-- The filter with which a look-up is answered. -/
def lookupFilter (entityType permission : String) (s : Subject) : TupleFilter :=
  ⟨some ⟨entityType, []⟩, permission, some (subjectFilter s)⟩

/-- Answers a check. -/
def check (s : Store) (r : CheckRequest) : Except ServiceError CheckResponse :=
  match r.entity, r.subject with
  | none, _ => .error (.missing "entity")
  | _, none => .error (.missing "subject")
  | some entity, some subject => do
    let (found, _) ← s.read r.tenantId (checkFilter entity r.permission subject) ⟨1, ""⟩
    .ok ⟨if found.isEmpty then .denied else .allowed, some ⟨1⟩⟩

/-- Puts a name into an ascending list, once. -/
def insertName (name : String) : List String → List String
  | [] => [name]
  | n :: rest =>
    if name = n then n :: rest
    else if name < n then name :: n :: rest
    else n :: insertName name rest

/-- The entities of a page of relationships, in ascending order and each once. -/
def entityIds (found : List Tuple) : List String :=
  found.foldl (fun ids t => match t.entity with
    | some e => insertName e.id ids
    | none => ids) []

/-- Answers a look-up. -/
def lookup (s : Store) (r : LookupRequest) : Except ServiceError LookupResponse :=
  match r.subject with
  | none => .error (.missing "subject")
  | some subject => do
    let (found, next) ← s.read r.tenantId (lookupFilter r.entityType r.permission subject)
      ⟨r.pageSize, r.continuousToken⟩
    .ok ⟨entityIds found, next⟩

end Rebac.Store
