import AuditRelay.DeadLetters
import Mathlib.Data.List.DropRight
import Mathlib.Data.List.Induction

/-!
# What a store of dead letters keeps

A store with a limit keeps the newest of the logs that were put aside, as many as it has room for.
Each time it makes room for one more: it puts the new log behind the others and drops from the front
what is too much (`held_handle`). `kept` says what should be left of everything that was ever put
aside, and `kept_snoc` that making room each time comes to the same.

`newest_kept` is the result for any sequence of calls, where `run` answers one call after the other.
-/

namespace AuditRelay.DeadLetters

/-- The logs that are held, in the order in which they were put aside. -/
def held (d : DeadLetters) : List DeadLetter := d.entries.reverse

/-! ### Making room -/

/-- What a store holds that should keep at most `limit` logs, when `es` were put aside one after the
other: the last ones, or all of them if there is no limit. -/
def kept (limit : Nat) (es : List DeadLetter) : List DeadLetter :=
  if limit = 0 then es else es.rtake limit

theorem kept_unlimited (es : List DeadLetter) : kept 0 es = es := if_pos rfl

theorem kept_limited {limit : Nat} (pos : 0 < limit) (es : List DeadLetter) :
    kept limit es = es.rtake limit :=
  if_neg (Nat.ne_of_gt pos)

theorem kept_nil (limit : Nat) : kept limit [] = [] := by
  unfold kept
  rw [List.rtake_nil]
  exact ite_self []

/-- The number of logs that there is room for, of `n`. -/
def room (limit n : Nat) : Nat :=
  if limit = 0 then n else min n limit

theorem length_kept (limit : Nat) (es : List DeadLetter) :
    (kept limit es).length = room limit es.length := by
  unfold kept room
  by_cases unlimited : limit = 0
  · rw [if_pos unlimited, if_pos unlimited]
  · rw [if_neg unlimited, if_neg unlimited, List.rtake, List.length_drop]
    omega

/-- As many logs are kept as there is room for, and they are the last ones. -/
theorem kept_eq_rtake (limit : Nat) (es : List DeadLetter) :
    kept limit es = es.rtake (room limit es.length) := by
  unfold kept room List.rtake
  by_cases unlimited : limit = 0
  · rw [if_pos unlimited, if_pos unlimited, Nat.sub_self, List.drop_zero]
  · rw [if_neg unlimited, if_neg unlimited]
    congr 1
    omega

/-- The last of the last are the last of all. -/
theorem rtake_rtake {α : Type} (k m : Nat) (es : List α) :
    (es.rtake m).rtake k = es.rtake (min k m) := by
  -- seen from the other end these are the first of the first
  rw [List.rtake_eq_reverse_take_reverse, List.rtake_eq_reverse_take_reverse (n := m),
    List.reverse_reverse, List.take_take, ← List.rtake_eq_reverse_take_reverse]

/-- The last logs of what is left when there is one more are the last of all. -/
theorem rtake_rtake_snoc {α : Type} (k : Nat) (es : List α) (e : α) :
    (es.rtake k ++ [e]).rtake k = (es ++ [e]).rtake k := by
  cases k with
  | zero => rw [List.rtake_zero, List.rtake_zero]
  | succ k =>
    rw [List.rtake_concat_succ, List.rtake_concat_succ, rtake_rtake,
      Nat.min_eq_left (Nat.le_succ k)]

/-- **Making room each time comes to the same** as keeping the last of all. -/
theorem kept_snoc (limit : Nat) (es : List DeadLetter) (e : DeadLetter) :
    kept limit (kept limit es ++ [e]) = kept limit (es ++ [e]) := by
  rcases Nat.eq_zero_or_pos limit with rfl | pos
  · rw [kept_unlimited, kept_unlimited, kept_unlimited]
  · rw [kept_limited pos, kept_limited pos, kept_limited pos, rtake_rtake_snoc]

/-! ### One call -/

variable {d : DeadLetters}

/-- **How room is made**: the new log is put behind the others, and what is too much is dropped from
the front. -/
theorem held_handle (d : DeadLetters) (e : DeadLetter) :
    (d.handle e).held = kept d.limit (d.held ++ [e]) := by
  have pushed : d.held ++ [e] = (e :: d.entries).reverse := List.reverse_cons.symm
  rw [pushed]
  unfold handle held
  by_cases overfull : 0 < d.limit ∧ d.limit < (e :: d.entries).length
  · simp only [if_pos overfull]
    rw [kept_limited overfull.1, List.rtake_eq_reverse_take_reverse, List.reverse_reverse]
  · simp only [if_neg overfull]
    rcases Nat.eq_zero_or_pos d.limit with unlimited | pos
    · rw [unlimited, kept_unlimited]
    · -- there is room for all of them
      have fits : (e :: d.entries).length ≤ d.limit := by
        by_contra more
        exact overfull ⟨pos, by omega⟩
      rw [kept_limited pos, List.rtake_eq_reverse_take_reverse, List.reverse_reverse,
        List.take_of_length_le fits]

theorem limit_handle (d : DeadLetters) (e : DeadLetter) : (d.handle e).limit = d.limit := by
  unfold handle
  simp only
  split <;> rfl

theorem count_eq (d : DeadLetters) : d.count = d.held.length := by
  unfold count held
  rw [List.length_reverse]

/-- The newest logs, newest first. -/
theorem list_eq (d : DeadLetters) (k : Nat) : d.list k = (d.held.rtake k).reverse := by
  unfold list held
  rw [List.rtake_eq_reverse_take_reverse, List.reverse_reverse, List.reverse_reverse]

/-! ### Sequences of calls -/

/-- A call to a store. -/
inductive Call where
  | handle (e : DeadLetter)
  | count
  | list (k : Nat)

/-- What a call returns. -/
inductive Answer where
  | handled
  | counted (n : Nat)
  | listed (es : List DeadLetter)
  deriving DecidableEq

/-- Answers a call. -/
def serve (d : DeadLetters) : Call → Answer × DeadLetters
  | .handle e => (.handled, d.handle e)
  | .count => (.counted d.count, d)
  | .list k => (.listed (d.list k), d)

/-- Answers some calls to a new store one after the other. -/
def run (limit : Nat) (cs : List Call) : List Answer × DeadLetters :=
  cs.foldl (fun s c => (s.1 ++ [(s.2.serve c).1], (s.2.serve c).2)) ([], .empty limit)

theorem run_snoc (limit : Nat) (cs : List Call) (c : Call) :
    run limit (cs ++ [c])
      = ((run limit cs).1 ++ [((run limit cs).2.serve c).1], ((run limit cs).2.serve c).2) := by
  unfold run
  rw [List.foldl_append]
  rfl

/-- The log that a call puts aside. -/
def Call.log? : Call → Option DeadLetter
  | .handle e => some e
  | _ => none

/-- All logs that were put aside, kept or not. -/
def handled (cs : List Call) : List DeadLetter := cs.filterMap Call.log?

/-- **A store that keeps the newest** of the logs that were put aside. -/
structure Keeps (limit : Nat) (es : List DeadLetter) (d : DeadLetters) : Prop where
  bound : d.limit = limit
  held : d.held = kept limit es

theorem Keeps.handle {limit : Nat} {es : List DeadLetter} (keeps : Keeps limit es d)
    (e : DeadLetter) : Keeps limit (es ++ [e]) (d.handle e) where
  bound := by rw [limit_handle, keeps.bound]
  held := by rw [held_handle, keeps.held, keeps.bound, kept_snoc]

/-- **Every sequence of calls** leaves the newest logs. -/
theorem keeps_run (limit : Nat) (cs : List Call) :
    Keeps limit (handled cs) (run limit cs).2 := by
  -- by induction on the calls, the last one apart
  induction cs using List.reverseRecOn with
  | nil => exact ⟨rfl, (kept_nil limit).symm⟩
  | append_singleton cs c ih =>
    rw [run_snoc, handled, List.filterMap_append]
    cases c with
    | handle e => exact ih.handle e
    | count =>
      show Keeps limit (handled cs ++ []) (run limit cs).2
      rw [List.append_nil]
      exact ih
    | list k =>
      show Keeps limit (handled cs ++ []) (run limit cs).2
      rw [List.append_nil]
      exact ih

/-- **The newest logs are kept.** Whatever was called before, a store holds the last of the `n` logs
that were put aside, unchanged and in their order: as many as its limit allows, and all if it has
none. It counts them, and it lists the newest of them, newest first; neither changes it. -/
theorem newest_kept (limit : Nat) (cs : List Call) :
    let d := (run limit cs).2
    let n := (handled cs).length
    let size := room limit n
    d.held = (handled cs).rtake size ∧
    run limit (cs ++ [.count]) = ((run limit cs).1 ++ [.counted size], d) ∧
    ∀ k, run limit (cs ++ [.list k])
      = ((run limit cs).1 ++ [.listed ((handled cs).rtake (min k size)).reverse], d) := by
  intro d n size
  have keeps := keeps_run limit cs
  have last : d.held = (handled cs).rtake size := by rw [keeps.held, kept_eq_rtake]
  have length : d.held.length = size := by rw [keeps.held, length_kept]
  refine ⟨last, ?_, fun k => ?_⟩
  · rw [run_snoc]
    show (_ ++ [Answer.counted d.count], d) = _
    rw [count_eq, length]
  · have listed : d.list k = ((handled cs).rtake (min k size)).reverse := by
      rw [list_eq, last, rtake_rtake]
    rw [run_snoc]
    show (_ ++ [Answer.listed (d.list k)], d) = _
    rw [listed]

/-- A store for one log, which is full from the first on. -/
example (e e' : DeadLetter) :
    (run 1 [.list 2, .handle e, .handle e', .count, .list 2, .list 0]).1
      = [.listed [], .handled, .handled, .counted 1, .listed [e'], .listed []] := rfl

end AuditRelay.DeadLetters
