/-!
# Seeds of signing keys

A seed is written in base 32. It holds two bytes that tell the kind of key, 32 secret bytes, and two
bytes that check the others.
-/

namespace AuditRelay.Nats.Seed

/-- The value of a digit in base 32. -/
def digit? (c : Char) : Option Nat :=
  if 'A' ≤ c ∧ c ≤ 'Z' then some (c.toNat - 'A'.toNat)
  else if '2' ≤ c ∧ c ≤ '7' then some (c.toNat - '2'.toNat + 26)
  else none

/-- The number that digits in base 32 stand for. -/
def number? (cs : List Char) : Option Nat :=
  cs.foldlM (fun n c => (digit? c).map (32 * n + ·)) 0

/-- The last `count` bytes of a number, the most significant in front. -/
def bytes (n : Nat) : (count : Nat) → List Nat
  | 0 => []
  | count + 1 => bytes (n / 256) count ++ [n % 256]

/-- One step of the check sum: eight bits, with the polynomial `x^16 + x^12 + x^5 + 1`. -/
def shift (crc : Nat) : Nat :=
  if crc < 0x8000 then 2 * crc else (2 * crc - 0x10000) ^^^ 0x1021

/-- The check sum of bytes. -/
def checkSum (bs : List Nat) : Nat :=
  bs.foldl (fun crc b => Nat.repeat shift 8 (crc ^^^ (256 * b))) 0

/-- Number of bytes of a seed. -/
def size : Nat := 36

/-- The mark of a seed in the leading five bits. -/
def mark : Nat := 18

/-- The kinds of keys that have seeds: operator, account, user, server, cluster, curve and
module. -/
def kinds : List Nat := [14, 0, 20, 13, 2, 23, 12]

/-- Whether a text is a seed. -/
def isSeed (s : String) : Bool :=
  let cs := s.toList
  match number? cs with
  | none => false
  | some n =>
    cs.length == 58 &&
      let bs := bytes (n / 4) size
      let payload := bs.take (size - 2)
      let kind := (payload.getD 0 0 % 8) * 32 + payload.getD 1 0 / 8
      payload.getD 0 0 / 8 == mark && kinds.contains (kind / 8) &&
        bs.drop (size - 2) == [checkSum payload % 256, checkSum payload / 256]

end AuditRelay.Nats.Seed
