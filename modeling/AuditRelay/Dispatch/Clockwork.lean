/-!
# Systems in time

A system does what can be done at once; when nothing can, time passes until the next moment at which
something may. Doing takes no time.
-/

namespace AuditRelay

/-- A system with states of type `σ`. -/
structure Clockwork (σ : Type) where
  /-- What is done at once, if there is anything to do. -/
  act? : σ → Option σ
  /-- The moment at which there may be something to do, if nothing can be done now. -/
  due? : σ → Option Nat
  /-- Lets time pass until a moment. -/
  wait : Nat → σ → σ

namespace Clockwork

variable {σ : Type}

/-- Does what can be done at once, in at most `fuel` steps. -/
def settle (c : Clockwork σ) : (fuel : Nat) → σ → σ
  | 0, s => s
  | fuel + 1, s =>
    match c.act? s with
    | some s => settle c fuel s
    | none => s

/-- Does what can be done until a moment, in at most `fuel` steps. Without a moment it ends when
nothing will ever be left to do. -/
def runUntil (c : Clockwork σ) (limit : Option Nat) : (fuel : Nat) → σ → σ
  | 0, s => s
  | fuel + 1, s =>
    match c.act? s with
    | some s => runUntil c limit fuel s
    | none =>
      match c.due? s, limit with
      | some t, some l => if t ≤ l then runUntil c limit fuel (c.wait t s) else c.wait l s
      | some t, none => runUntil c limit fuel (c.wait t s)
      | none, some l => c.wait l s
      | none, none => s

end Clockwork

end AuditRelay
