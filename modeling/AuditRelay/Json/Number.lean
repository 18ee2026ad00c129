import AuditRelay.Decimal.Shortest

/-!
# JSON numbers

A number without a point or an exponent is kept exactly as long as it fits 64 bits; every other
number is a 64-bit floating point number.
-/

namespace AuditRelay.Json

/-- A number as a JSON text holds it. -/
inductive Number where
  /-- A whole number below `2 ^ 64`. -/
  | whole (n : Nat)
  /-- The negative number `-(n + 1)`, not below `-2 ^ 63`. -/
  | negative (n : Nat)
  | real (f : Float)

namespace Number

/-- Floating point numbers are written with a point from the power of ten `-5` up to `15`, and
otherwise with a signed exponent. -/
def layout : Decimal.Layout := ⟨-5, 15, 1⟩

/-- The text of a number. -/
def print : Number → String
  | whole n => toString n
  | negative n => "-" ++ toString (n + 1)
  | real f => Decimal.format layout f

/-- The largest whole number of 64 bits, plus one. -/
def wordBound : Nat := UInt64.size

/-- Takes digits into a number as long as it stays below `bound`; the digits left over are
returned. -/
def absorb (bound : Nat) : (n : Nat) → (digits : List Nat) → Nat × List Nat
  | n, [] => (n, [])
  | n, d :: rest => if 10 * n + d < bound then absorb bound (10 * n + d) rest else (n, d :: rest)

/-- Multiplies by a power of ten, in steps that a power of ten of 64 bits can hold. There is no
result when it would be too large. -/
def scale : (fuel : Nat) → Float → Int → Option Float
  | 0, f, _ => some f
  | fuel + 1, f, e =>
    if e.natAbs ≤ 308 then
      let power := Float.ofScientific 1 false e.natAbs
      if 0 ≤ e then
        let g := f * power
        if g.isInf then none else some g
      else some (f / power)
    else if f == 0 then some f
    else if 0 ≤ e then none
    else scale fuel (f / Float.ofScientific 1 false 308) (e + 308)

/-- The floating point number `significand * 10 ^ exponent` with a sign. -/
def ofParts (positive : Bool) (significand : Nat) (exponent : Int) : Option Number :=
  (scale 4 significand.toUInt64.toFloat exponent).map fun f => real (if positive then f else -f)

/-- The number that a run of digits without point and exponent stands for. A negative number too
low for 64 bits, and zero with a sign, are floating point numbers. -/
def ofDigits (positive : Bool) (n : Nat) : Number :=
  if positive then whole n
  else if n = 0 ∨ UInt64.size / 2 < n then real (-(n.toUInt64.toFloat))
  else negative (n - 1)

end Number

end AuditRelay.Json
