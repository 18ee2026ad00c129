/-!
# Bytes in hexadecimal digits

Two digits stand for a byte. Digits are written in lower case.
-/

namespace AuditRelay.Text.Hex

/-- The value of a digit in either case. -/
def value? (c : Char) : Option Nat :=
  if c.isDigit then some (c.toNat - '0'.toNat)
  else if 'a' ≤ c ∧ c ≤ 'f' then some (c.toNat - 'a'.toNat + 10)
  else if 'A' ≤ c ∧ c ≤ 'F' then some (c.toNat - 'A'.toNat + 10)
  else none

/-- The digits of bytes. -/
def encode : List UInt8 → List Char
  | [] => []
  | b :: rest => Nat.digitChar (b.toNat / 16) :: Nat.digitChar (b.toNat % 16) :: encode rest

/-- The bytes of digits. -/
def decode? : List Char → Option (List UInt8)
  | [] => some []
  | [_] => none
  | a :: b :: rest => do
    let bytes ← decode? rest
    pure (UInt8.ofNat (16 * (← value? a) + (← value? b)) :: bytes)

/-- A digit has the value that it was written for. -/
theorem value?_digitChar : ∀ n < 16, value? (Nat.digitChar n) = some n := by
  decide

/-- Reading what was written gives the same bytes. -/
theorem decode?_encode (bs : List UInt8) : decode? (encode bs) = some bs := by
  induction bs with
  | nil => rfl
  | cons b rest ih =>
    have high : b.toNat / 16 < 16 := Nat.div_lt_of_lt_mul (by have := b.toNat_lt; omega)
    have low : b.toNat % 16 < 16 := Nat.mod_lt _ (by decide)
    have whole : UInt8.ofNat (16 * (b.toNat / 16) + b.toNat % 16) = b := by
      rw [Nat.div_add_mod]
      exact UInt8.ofNat_toNat
    simp only [encode, decode?, ih, value?_digitChar _ high, value?_digitChar _ low, whole,
      Option.bind_eq_bind, Option.bind_some, Option.pure_def]

end AuditRelay.Text.Hex
