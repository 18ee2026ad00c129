/-!
# How deeply patterns are nested

Every group, repetition and bracket is one level deeper than what it holds, and so are parts that
stand side by side, unless there is only one. What is nested too deeply is no pattern.
-/

namespace AuditRelay.Logging.Pattern

/-- The deepest nesting of a pattern. -/
def deepest : Nat := 250

/-- Parts that stand side by side. -/
structure Row where
  /-- How many they are. -/
  count : Nat
  /-- How deeply the deepest of them is nested. -/
  inner : Nat
  deriving DecidableEq, Repr

namespace Row

/-- No parts. -/
def empty : Row := ⟨0, 0⟩

/-- One more part. -/
def add (r : Row) (depth : Nat) : Row := ⟨r.count + 1, max r.inner depth⟩

/-- The last part is nested more deeply than it was. -/
def deepen (r : Row) (depth : Nat) : Row := ⟨r.count, max r.inner depth⟩

/-- How deeply the parts are nested together. -/
def depth (r : Row) : Nat := if r.count ≤ 1 then r.inner else r.inner + 1

end Row

end AuditRelay.Logging.Pattern
