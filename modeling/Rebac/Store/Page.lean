import Rebac.Power
import Rebac.Status

namespace Rebac.Store

/-!
# Pages

A list is read page by page. The token of a page is the position where it starts, in decimal; the
page tells the token of the next one, and an empty token means that there is none.

* `offset?` reads a token.
* `Page.cut` takes a page out of a list.
-/

/-- The size of a page that does not say its own. -/
def defaultPageSize : Nat := 100

/-- Which page is asked for. -/
structure Page where
  /-- The number of items, zero for the default. -/
  size : UInt32 := 0
  /-- The token of the page, empty for the first. -/
  token : String := ""
  deriving DecidableEq

/-- The number of items on a page. -/
def Page.limit (p : Page) : Nat :=
  if p.size = 0 then defaultPageSize else p.size.toNat

/-- The value of a decimal digit. -/
def digit? (c : Char) : Option Nat :=
  if '0' ≤ c && c ≤ '9' then some (c.toNat - 48) else none

/-- The number whose digits follow those of `acc`, `none` beyond 64 bits. -/
def digitsFrom? (acc : Nat) : List Char → Option Nat
  | [] => some acc
  | c :: rest =>
    match digit? c with
    | some d => if acc * 10 + d < 2 ^ 64 then digitsFrom? (acc * 10 + d) rest else none
    | none => none

/-- The number of 64 bits that a decimal text denotes; a plus sign may stand before it. -/
def decimal? (cs : List Char) : Option Nat :=
  match cs with
  | '+' :: rest => if rest.isEmpty then none else digitsFrom? 0 rest
  | [] => none
  | cs => digitsFrom? 0 cs

/-- The position that a token stands for. -/
def offset? (token : String) : Option Nat :=
  if token.isEmpty then some 0 else decimal? token.toList

/-- A page of a list, and the token of the next page. -/
def Page.cut {α : Type} (p : Page) (items : List α) : Except ServiceError (List α × String) :=
  match offset? p.token with
  | none => .error (.badToken p.token)
  | some start =>
    let stop := min (start + p.limit) items.length
    .ok ((items.take stop).drop start, if stop < items.length then toString stop else "")

end Rebac.Store
