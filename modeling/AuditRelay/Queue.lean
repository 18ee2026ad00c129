/-!
# Bounded queues

A queue holds a limited number of items between many producers and one receiver. A producer that
finds it full waits, and the producers that wait are served in the order in which they came. Some
stay: as soon as the receiver takes an item, the item of the first of them moves in. Others go away
and come back: the free place is kept for the first of them until it has come back with its item or
has given up.

When the receiver goes away the items are lost, those who wait learn that the queue is closed, and
so does everyone who comes later. A kept place is worth nothing then.
-/

namespace AuditRelay

/-- A producer that waits; a ticket tells one from another. -/
structure Waiter (α : Type) where
  ticket : Nat
  /-- The item of a producer that stays. -/
  item : Option α
  deriving DecidableEq, Repr

/-- A queue. -/
structure Queue (α : Type) where
  capacity : Nat
  /-- First in, first out. -/
  items : List α
  /-- The tickets for which a place is kept. -/
  kept : List Nat
  /-- The producers that wait, the first to be served in front. -/
  waiting : List (Waiter α)
  /-- Whether the receiver is there. -/
  isOpen : Bool
  deriving DecidableEq, Repr

namespace Queue

variable {α : Type}

/-- What becomes of an item that a producer brings. -/
inductive Admission where
  | accepted
  /-- There is no place. -/
  | full
  | closed
  deriving DecidableEq, Repr

/-- The largest capacity there is. -/
def maxCapacity : Nat := UInt64.size / 8 - 1

/-- A queue without items, if there can be one of that capacity. -/
def new? (capacity : Nat) : Option (Queue α) :=
  if capacity = 0 ∨ maxCapacity < capacity then none else some ⟨capacity, [], [], [], true⟩

/-- The number of places that are taken or kept. -/
def load (q : Queue α) : Nat :=
  q.items.length + q.kept.length

/-- The number of free places. -/
def free (q : Queue α) : Nat :=
  q.capacity - q.load

/-- Brings an item without waiting for a place. -/
def offer (q : Queue α) (a : α) : Admission × Queue α :=
  if !q.isOpen then (.closed, q)
  else if q.load < q.capacity then (.accepted, { q with items := q.items ++ [a] })
  else (.full, q)

/-- Brings an item; whoever finds the queue full waits, and stays or goes away. -/
def submit (q : Queue α) (ticket : Nat) (stays : Bool) (a : α) : Admission × Queue α :=
  match q.offer a with
  | (.full, q) =>
    (.full, { q with waiting := q.waiting ++ [⟨ticket, if stays then some a else none⟩] })
  | r => r

/-- Gives a place that has become free to the first waiting producer. Tells its ticket if its item
moves in. -/
def refill (q : Queue α) : Option Nat × Queue α :=
  match q.waiting with
  | [] => (none, q)
  | ⟨ticket, some a⟩ :: rest =>
    (some ticket, { q with items := q.items ++ [a], waiting := rest })
  | ⟨ticket, none⟩ :: rest => (none, { q with kept := q.kept ++ [ticket], waiting := rest })

/-- Takes the first item, and tells the ticket of the producer whose item moves in. -/
def take? (q : Queue α) : Option (α × Option Nat × Queue α) :=
  match q.items with
  | [] => none
  | a :: rest => some (a, ({ q with items := rest } : Queue α).refill)

/-- Comes back with an item; tells whether there is a place for it. -/
def comeBack (q : Queue α) (ticket : Nat) (a : α) : Bool × Queue α :=
  if q.kept.contains ticket then
    (true, { q with items := q.items ++ [a], kept := q.kept.erase ticket })
  else (false, q)

/-- Gives up waiting. A place that was kept goes to the next producer; tells its ticket if its item
moves in. -/
def abandon (q : Queue α) (ticket : Nat) : Option Nat × Queue α :=
  if q.kept.contains ticket then ({ q with kept := q.kept.erase ticket } : Queue α).refill
  else (none, { q with waiting := q.waiting.filter (·.ticket ≠ ticket) })

/-- The receiver goes away; tells the tickets of those who waited or had a place kept. -/
def close (q : Queue α) : List Nat × Queue α :=
  (q.kept ++ q.waiting.map (·.ticket),
    { q with items := [], kept := [], waiting := [], isOpen := false })

/-- Whether nothing will come out any more, if no producer is left but those who wait. -/
def drained (q : Queue α) : Bool :=
  q.items.isEmpty && q.kept.isEmpty && q.waiting.isEmpty

/-! ## Small laws -/

@[simp] theorem offer_closed {q : Queue α} (h : q.isOpen = false) (a : α) :
    q.offer a = (.closed, q) := by
  simp [offer, h]

theorem offer_accepted {q : Queue α} (h : q.isOpen = true) (room : q.load < q.capacity)
    (a : α) : q.offer a = (.accepted, { q with items := q.items ++ [a] }) := by
  simp [offer, h, room]

theorem offer_full {q : Queue α} (h : q.isOpen = true) (room : q.capacity ≤ q.load)
    (a : α) : q.offer a = (.full, q) := by
  simp [offer, h, Nat.not_lt.2 room]

/-- Nothing can be taken exactly when there is nothing. -/
theorem take?_eq_none {q : Queue α} : q.take? = none ↔ q.items = [] := by
  unfold take?
  cases q.items <;> simp

end Queue

end AuditRelay
