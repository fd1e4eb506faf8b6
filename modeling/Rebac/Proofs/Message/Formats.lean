import Rebac.Message.Kind
import Rebac.Proofs.Record.Reading
import Rebac.Proofs.Record.Wire

namespace Rebac.Message

open Record

/-!
# Messages survive their formats

What is written for a message, as a JSON text or on the wire, is read as this message.

* `Kind.readable`, `Kind.sendable`, `Kind.height_lt` — the descriptions of all messages are such that the
  readers of both formats can follow them: fields and names are told apart, lists are empty unless they
  are given, and nothing is nested too deeply.
* `ofJson_toJson` — **the JSON text of a message is read as the message**.
* `ofWire?_toWire` — **the wire form of a message is read as the message**, so no other message has it.
-/

/-! ### The descriptions of the messages -/

/-- The fields of every message can be told apart by their names. -/
theorem Kind.readable (k : Kind) : (Record.fields k.Carrier).Readable := by
  cases k <;> decide

/-- The fields of every message can be told apart by their numbers. -/
theorem Kind.sendable (k : Kind) : (Record.fields k.Carrier).Sendable := by
  cases k <;> decide

/-- No message is nested deeper than a reader allows. -/
theorem Kind.height_lt (k : Kind) : (Record.fields k.Carrier).height < nestingLimit := by
  cases k <;> decide

/-! ### Both formats -/

/-- **JSON round trip.** The JSON text of a message is read as just this message: every text in it comes
    back from its quoted form, an absent record from `null` and an empty one from an object, a value of
    an enumeration from its name if it has one and else from its number. -/
theorem ofJson_toJson (k : Kind) (m : k.Carrier) : ofJson k.Carrier (toJson m) = .ok m :=
  ofJson_of_readable k.readable m

/-- **Wire round trip.** The wire form of a message is read as just this message, and so no other message
    of its kind has the same wire form. Lengths are written as numbers of 64 bits, so the wire form must
    have fewer than `2 ^ 64` bytes, as every byte sequence in a memory has. -/
theorem ofWire?_toWire (k : Kind) (m : k.Carrier) (fits : (toWire m).length < 2 ^ 64) :
    ofWire? k.Carrier (toWire m) = some m ∧ ∀ other : k.Carrier, toWire other = toWire m → other = m := by
  -- A message with the same wire form has a wire form of the same length.
  have hread : ∀ other : k.Carrier, toWire other = toWire m →
      ofWire? k.Carrier (toWire m) = some other := by
    intro other hsame
    rw [← hsame] at fits ⊢
    exact ofWire?_of_sendable k.sendable k.height_lt fits
  refine ⟨hread m rfl, fun other hsame => ?_⟩
  have hboth := (hread other hsame).symm.trans (hread m rfl)
  exact Option.some.inj hboth

/-- A change whose number has no name, of a relationship in which an empty entity is given, everything
    else is missing, and the name of the relation has characters of several bytes. -/
def strangeChange : DataChange where
  operation := ⟨-7⟩
  tuple := some { entity := some {}, relation := "ämter→\n", subject := none }

theorem ofWire?_toWire_strangeChange :
    (toWire strangeChange).length < 2 ^ 64
      ∧ ofWire? DataChange (toWire strangeChange) = some strangeChange
      ∧ ∀ other : DataChange, toWire other = toWire strangeChange → other = strangeChange :=
  ⟨by decide, ofWire?_toWire .dataChange strangeChange (by decide)⟩

end Rebac.Message
