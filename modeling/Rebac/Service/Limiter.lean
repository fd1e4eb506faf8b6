namespace Rebac.Service

/-!
# The rate limiter

A limiter starts with as many permits as calls may be admitted in a second, and counts what it admits
and what it rejects. Permits that come back as time passes are not accounted for here.
-/

/-- A limiter: its rate, the permits that are left, and its totals. -/
structure Limiter where
  rate : Nat
  left : Nat
  admitted : Nat
  rejected : Nat
  deriving DecidableEq

namespace Limiter

/-- A limiter that has admitted nothing yet. -/
def ofRate (rate : Nat) : Limiter :=
  ⟨rate, rate, 0, 0⟩

/-- Asks for a permit: whether there was one, and the limiter afterwards. -/
def acquire (l : Limiter) : Bool × Limiter :=
  if 0 < l.left then (true, { l with left := l.left - 1, admitted := l.admitted + 1 })
  else (false, { l with rejected := l.rejected + 1 })

end Limiter

end Rebac.Service
