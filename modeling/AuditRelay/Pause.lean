/-!
# Pauses

Something that waits names how long it wants to wait, in milliseconds. A clock does not look ahead
for ever: nothing waits for more than thirty years.
-/

namespace AuditRelay.Pause

/-- Thirty years of 365 days. -/
def longest : Nat := 30 * 365 * 24 * 60 * 60 * 1000

/-- How long a pause lasts that is wanted to last `ms`. -/
def length (ms : Nat) : Nat := min ms longest

theorem length_le_longest (ms : Nat) : length ms ≤ longest := Nat.min_le_right ..

theorem length_eq_self {ms : Nat} (h : ms ≤ longest) : length ms = ms := Nat.min_eq_left h

end AuditRelay.Pause
