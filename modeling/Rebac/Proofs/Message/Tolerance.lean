import Rebac.Message.Kind
import Rebac.Proofs.Record.Tolerance

namespace Rebac.Message

open Record Rebac.Json

/-!
# Messages with members that are moved, added and repeated

* `tolerates_members` — **a text is read as the same message if the members of its objects are moved and
  unknown ones are added, and as none if a member is given twice**.
-/

/-- **Members may be moved and added, and not repeated.** Let a text of the grammar be read as a message of
    any kind.

    * Any number of times, in any object that stands for a message, at any level, the members may be put in
      another order, and members with names that are not declared may be put anywhere between them, with
      any value of the grammar and any blanks: the text is read as the same message.
    * If in such an object a member with a declared name that is there already is put anywhere, however
      the name is spelled and whatever the value is, the text is not read. -/
theorem tolerates_members (k : Kind) {t : SpelledText} {m : k.Carrier}
    (h : ofJson k.Carrier (SpelledText.bytes t) = .ok m) (t' : SpelledText) :
    (Relation.ReflTransGen (Shape.Changed Tolerated (.part k.Carrier)) t.content t'.content →
        ofJson k.Carrier (SpelledText.bytes t') = .ok m)
    ∧ (Shape.Changed Doubled (.part k.Carrier) t.content t'.content →
        ∃ e, ofJson k.Carrier (SpelledText.bytes t') = .error e) :=
  ⟨fun hchanged => ofJson_tolerated h hchanged, fun hchanged => ofJson_doubled hchanged⟩

/-- The bytes of a text that stand for themselves. -/
def plain (s : String) : Quoted :=
  (bytesOfText s).filterMap fun b =>
    if legal : ¬ b < 0x20 ∧ b ≠ ascii '"' ∧ b ≠ ascii '\\' then some (.plain b legal) else none

/-- A member without blanks. -/
def plainMember (name : Quoted) (v : Spelling) : SpelledMember :=
  (⟨[], name, []⟩, ⟨[.space], v, []⟩)

/-- The type of the entities of a filter. -/
def typeMember : SpelledMember := plainMember (plain "type") (.text (plain "document"))

/-- The entities of a filter. -/
def entityMember (members : List SpelledMember) : SpelledMember :=
  plainMember (plain "entity") (.object [] members)

/-- The relation of a filter. -/
def relationMember : SpelledMember := plainMember (plain "relation") (.text (plain "view"))

/-- A member that no message has, with braces and quotation marks in a nested value. -/
def strangeMember : SpelledMember :=
  plainMember [.short .quote] (.array [] [⟨[], .object [] [plainMember (plain "type") .null], [.tab]⟩,
    ⟨[], .text (.short .quote :: plain "\x7d,"), []⟩])

/-- A filter in which the entities come last, after a strange member, is read as one in which they come
    first; one in which their type is given twice is not read. -/
theorem tolerates_members_filter :
    let m : TupleFilter := { entity := some { type := "document" }, relation := "view" }
    let text members : SpelledText := ⟨[], .object [] members, [.newline]⟩
    ofJson TupleFilter (SpelledText.bytes (text [entityMember [typeMember], relationMember])) = .ok m
    ∧ ofJson TupleFilter
        (SpelledText.bytes (text [strangeMember, relationMember, entityMember [typeMember]])) = .ok m
    ∧ ∃ e, ofJson TupleFilter (SpelledText.bytes
        (text [entityMember [typeMember, typeMember], relationMember])) = .error e := by
  intro m text
  have hread : (ofJson TupleFilter (SpelledText.bytes
      (text [entityMember [typeMember], relationMember]))).toOption = some m := by
    decide +kernel
  have hread := toOption_eq_some_iff.mp hread
  have htype : Quoted.text (plain "type") = .ok "type" := by decide
  have hentity : Quoted.text (plain "entity") = .ok "entity" := by decide
  refine ⟨hread, ?_, ?_⟩
  · refine (tolerates_members .tupleFilter hread _).1 (.single (.here ⟨[strangeMember], ?_, ?_⟩))
    · exact List.reverse_perm [entityMember [typeMember], relationMember, strangeMember]
    · exact List.forall_mem_singleton.mpr ⟨"\"", by decide, by decide⟩
  · refine (tolerates_members .tupleFilter hread _).2 ?_
    show RecordChanged _ _ _ (.object [] ([] ++ entityMember [typeMember] :: [relationMember]))
      (.object [] ([] ++ entityMember [typeMember, typeMember] :: [relationMember]))
    refine .member hentity ?_
    show if "entity" = "entity" then _ else _
    rw [if_pos rfl]
    exact .here ⟨[], [typeMember], typeMember, rfl, rfl, "type", by decide, htype, typeMember,
      by simp, htype⟩

end Rebac.Message
