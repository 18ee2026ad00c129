import AuditRelay.Proofs.Run
import Mathlib.Tactic.Common

/-!
# What the queue holds

* `Queue.Sound` is the invariant of the queue alone: it is never overfull, a producer waits only
  while there is no place, and a closed queue holds nothing.
* `Stock` ties the queue to the history: what was accepted and not yet taken is exactly what the
  queue holds, in the order in which it was accepted (`Stock.items_eq`). So the log that is taken as
  the `i`-th is the one that was accepted as the `i`-th.

* `Receiving` says when the queue has its receiver: as long as the dispatcher runs, and never again
  after that.

Each holds after every run (`Run.stock`, `Run.receiving`), by one lemma about `Step`.
-/

namespace AuditRelay

open History

/-! ### The queue alone -/

namespace Queue

variable {α : Type} {q : Queue α}

/-- **The rules of a queue.** -/
structure Sound (q : Queue α) : Prop where
  /-- There are no more items and kept places than the queue has room for. -/
  load_le : q.load ≤ q.capacity
  /-- Nobody waits while there is a free place. -/
  full : q.waiting ≠ [] → q.load = q.capacity
  /-- A closed queue holds nothing, and nobody waits for it. -/
  closed : q.isOpen = false → q.items = [] ∧ q.kept = [] ∧ q.waiting = []

theorem Sound.isOpen_of_waiting (hq : q.Sound) (h : q.waiting ≠ []) : q.isOpen = true := by
  by_contra hc
  exact h (hq.closed (Bool.eq_false_iff.mpr hc)).2.2

theorem Sound.isOpen_of_kept (hq : q.Sound) {t : Nat} (h : t ∈ q.kept) : q.isOpen = true := by
  by_contra hc
  rw [(hq.closed (Bool.eq_false_iff.mpr hc)).2.1] at h
  exact absurd h (by simp)

theorem Sound.isOpen_of_items (hq : q.Sound) (h : q.items ≠ []) : q.isOpen = true := by
  by_contra hc
  exact h (hq.closed (Bool.eq_false_iff.mpr hc)).1

theorem new?_eq_some {capacity : Nat} (h : new? capacity = some q) :
    q = ⟨capacity, [], [], [], true⟩ ∧ 0 < capacity := by
  unfold new? at h
  split at h
  · simp at h
  · next hc =>
    push Not at hc
    exact ⟨(Option.some.inj h).symm, Nat.pos_of_ne_zero hc.1⟩

theorem sound_of_new? {capacity : Nat} (h : new? capacity = some q) : q.Sound := by
  obtain ⟨rfl, hc⟩ := new?_eq_some h
  exact ⟨Nat.zero_le _, fun hw => absurd rfl hw, fun ho => absurd ho (by simp)⟩

/-! A place that has become free. -/

@[simp] theorem refill_capacity (q : Queue α) : q.refill.2.capacity = q.capacity := by
  unfold refill; split <;> rfl

@[simp] theorem refill_isOpen (q : Queue α) : q.refill.2.isOpen = q.isOpen := by
  unfold refill; split <;> rfl

@[simp] theorem refill_waiting (q : Queue α) : q.refill.2.waiting = q.waiting.tail := by
  unfold refill; split <;> simp_all

/-- The free place goes to whoever waits, if anyone does. -/
theorem refill_load (q : Queue α) :
    q.refill.2.load = q.load + if q.waiting = [] then 0 else 1 := by
  unfold refill
  split
  · next hw => rw [if_pos hw]; rfl
  · next hw =>
    rw [if_neg (by rw [hw]; simp)]
    simp only [load, List.length_append, List.length_singleton]
    omega
  · next hw =>
    rw [if_neg (by rw [hw]; simp)]
    simp only [load, List.length_append, List.length_singleton]
    omega

/-- A free place is filled. -/
theorem Sound.push (hq : q.Sound) (isOpen : q.isOpen = true) (room : q.load < q.capacity) (x : α) :
    ({ q with items := q.items ++ [x] } : Queue α).Sound where
  load_le := by
    simp only [load, List.length_append, List.length_singleton] at room ⊢
    omega
  full := fun hw => absurd (hq.full hw) (Nat.ne_of_lt room)
  closed := fun hc => absurd isOpen (Bool.eq_false_iff.mp hc)

/-- A kept place is filled by whoever it is kept for. -/
theorem Sound.fill (hq : q.Sound) {t : Nat} (kept : t ∈ q.kept) (x : α) :
    ({ q with items := q.items ++ [x], kept := q.kept.erase t } : Queue α).Sound := by
  -- a place that was kept is used, so the load stays
  have hload : ({ q with items := q.items ++ [x], kept := q.kept.erase t } : Queue α).load
      = q.load := by
    have hpos : 0 < q.kept.length := List.length_pos_of_mem kept
    simp only [load, List.length_append, List.length_singleton, List.length_erase_of_mem kept]
    omega
  refine ⟨?_, ?_, ?_⟩
  · rw [hload]
    exact hq.load_le
  · intro hw
    rw [hload]
    exact hq.full hw
  · exact fun hc => absurd (hq.isOpen_of_kept kept) (Bool.eq_false_iff.mp hc)

/-- Someone else waits in a full queue. -/
theorem Sound.wait (hq : q.Sound) (isOpen : q.isOpen = true) (full : q.capacity ≤ q.load)
    (w : Waiter α) : ({ q with waiting := q.waiting ++ [w] } : Queue α).Sound where
  load_le := hq.load_le
  full := fun _ => Nat.le_antisymm hq.load_le full
  closed := fun hc => absurd isOpen (Bool.eq_false_iff.mp hc)

/-- Some of those who wait go away. -/
theorem Sound.filter (hq : q.Sound) (stay : Waiter α → Bool) :
    ({ q with waiting := q.waiting.filter stay } : Queue α).Sound where
  load_le := hq.load_le
  full := by
    intro hw
    -- if nobody waited before, nobody waits now
    refine hq.full fun hnil => hw ?_
    change q.waiting.filter stay = []
    rw [hnil]
    rfl
  closed := by
    intro hc
    obtain ⟨hi, hk, hn⟩ := hq.closed hc
    refine ⟨hi, hk, ?_⟩
    change q.waiting.filter stay = []
    rw [hn]
    rfl

/-- The receiver goes away. -/
theorem Sound.close (q : Queue α) : q.close.2.Sound :=
  ⟨Nat.zero_le _, fun hw => absurd rfl hw, fun _ => ⟨rfl, rfl, rfl⟩⟩

theorem Sound.refill (isOpen : q.isOpen = true) (room : q.load < q.capacity)
    (last : q.waiting ≠ [] → q.load + 1 = q.capacity) : q.refill.2.Sound where
  load_le := by
    rw [refill_load, refill_capacity]
    split <;> omega
  -- whoever still waits was not alone, so the place that was free is taken again
  full := by
    intro hw
    have hne : q.waiting ≠ [] := by
      intro hnil
      rw [refill_waiting, hnil] at hw
      exact hw rfl
    rw [refill_load, refill_capacity, if_neg hne]
    exact last hne
  closed := by
    rw [refill_isOpen, isOpen]
    simp

/-- What the history shows of a free place is what enters the queue. -/
theorem refill_items (q : Queue Log) :
    q.refill.2.items = q.items ++ logs (accepted q.served) := by
  unfold refill served
  split
  · next hw => simp only [hw]; exact (List.append_nil _).symm
  · next hw => simp only [hw]; rfl
  · next hw => simp only [hw]; exact (List.append_nil _).symm

end Queue

namespace Dispatcher

variable {β : Type} {a : Assignment β} {C : Nat} {h seen : List Sight} {d d' : Dispatcher β}

/-! ### What the queue holds -/

/-- **The stock.** What was accepted and not yet taken is what the queue holds. -/
structure Stock (C : Nat) (h : List Sight) (d : Dispatcher β) : Prop where
  capacity : d.queue.capacity = C
  sound : d.queue.Sound
  taken_le : d.taken ≤ (accepted h).length
  /-- No more logs are accepted and not taken than the queue has places. -/
  accepted_le : (accepted h).length ≤ d.taken + C
  items_eq : d.queue.isOpen = true → d.queue.items = (logs (accepted h)).drop d.taken

theorem Stock.begin {broker : β} {q : Queue Log} {ids : IdStream} (hq : Queue.new? C = some q) :
    Stock C [] (Dispatcher.new broker q ids) where
  capacity := by
    change q.capacity = C
    rw [(Queue.new?_eq_some hq).1]
  sound := Queue.sound_of_new? hq
  taken_le := Nat.zero_le _
  accepted_le := Nat.zero_le _
  items_eq := fun _ => by
    change q.items = _
    rw [(Queue.new?_eq_some hq).1]
    rfl

/-- What the queue holds has room in it. -/
theorem stock_of_items (capacity : d.queue.capacity = C) (sound : d.queue.Sound)
    (taken_le : d.taken ≤ (accepted h).length)
    (items : d.queue.items = (logs (accepted h)).drop d.taken) : Stock C h d where
  capacity := capacity
  sound := sound
  taken_le := taken_le
  accepted_le := by
    -- what was accepted and not taken is in the queue, which has `C` places
    have hload := sound.load_le
    have hlength := congrArg List.length items
    rw [capacity, Queue.load] at hload
    rw [List.length_drop, logs, List.length_map] at hlength
    omega
  items_eq := fun _ => items

/-- Nothing is accepted and nothing is taken. -/
theorem Stock.still (hs : Stock C h d) (sound : d'.queue.Sound)
    (capacity : d'.queue.capacity = d.queue.capacity) (isOpen : d'.queue.isOpen = d.queue.isOpen)
    (items : d'.queue.items = d.queue.items) (taken : d'.taken = d.taken)
    (silent : accepted seen = []) : Stock C (h ++ seen) d' where
  capacity := by rw [capacity]; exact hs.capacity
  sound := sound
  taken_le := by rw [accepted_append, silent, List.append_nil, taken]; exact hs.taken_le
  accepted_le := by rw [accepted_append, silent, List.append_nil, taken]; exact hs.accepted_le
  items_eq := by
    rw [accepted_append, silent, List.append_nil, isOpen, items, taken]
    exact hs.items_eq

/-- The queue is closed. -/
theorem Stock.close (hs : Stock C h d) (queue : d'.queue = d.queue.close.2)
    (taken : d'.taken = d.taken) (silent : accepted seen = []) : Stock C (h ++ seen) d' where
  capacity := by rw [queue]; exact hs.capacity
  sound := by rw [queue]; exact Queue.Sound.close _
  taken_le := by rw [accepted_append, silent, List.append_nil, taken]; exact hs.taken_le
  accepted_le := by rw [accepted_append, silent, List.append_nil, taken]; exact hs.accepted_le
  items_eq := by rw [queue]; simp [Queue.close]

theorem logs_drop_append (hs : Stock C h d) (new : List (Nat × Log)) :
    (logs (accepted h ++ new)).drop d.taken = (logs (accepted h)).drop d.taken ++ logs new := by
  rw [logs_append]
  refine List.drop_append_of_le_length ?_
  rw [logs, List.length_map]
  exact hs.taken_le

/-- One log enters the queue. -/
theorem Stock.enter (hs : Stock C h d) {t : Nat} {l : Log} (isOpen : d.queue.isOpen = true)
    (sound : d'.queue.Sound) (capacity : d'.queue.capacity = d.queue.capacity)
    (items : d'.queue.items = d.queue.items ++ [l]) (taken : d'.taken = d.taken)
    (entry : accepted seen = [(t, l)]) : Stock C (h ++ seen) d' := by
  refine stock_of_items (capacity.trans hs.capacity) sound ?_ ?_
  · rw [accepted_append, taken, List.length_append]
    exact Nat.le_add_right_of_le hs.taken_le
  · rw [accepted_append, taken, logs_drop_append hs, entry, items, hs.items_eq isOpen]
    rfl

theorem accepted_dismissed (d : Dispatcher β) : accepted d.dismissed = [] := by
  refine List.filterMap_eq_nil_iff.mpr fun s hs => ?_
  obtain ⟨t, rfl⟩ := mem_dismissed hs
  rfl

/-- The first log is taken from the queue, and whoever waits longest gets the place. -/
theorem Stock.took (hs : Stock C h d) {raw : Log} {rest : List Log}
    (items : d.queue.items = raw :: rest)
    (queue : d'.queue = ({ d.queue with items := rest } : Queue Log).refill.2)
    (taken : d'.taken = d.taken + 1) : Stock C (h ++ d.queue.served) d' := by
  have isOpen : d.queue.isOpen = true := hs.sound.isOpen_of_items (by rw [items]; simp)
  -- taking the first log frees one place
  have hload : ({ d.queue with items := rest } : Queue Log).load + 1 = d.queue.load := by
    simp only [Queue.load, items, List.length_cons]
    omega
  have hle : d.queue.load ≤ d.queue.capacity := hs.sound.load_le
  have hdrop : raw :: rest = (logs (accepted h)).drop d.taken := items ▸ hs.items_eq isOpen
  refine stock_of_items ?_ ?_ ?_ ?_
  · rw [queue, Queue.refill_capacity]
    exact hs.capacity
  · rw [queue]
    refine Queue.Sound.refill isOpen ?_ fun hw => ?_
    · change _ < d.queue.capacity
      omega
    · rw [hload]
      exact hs.sound.full hw
  · -- the queue was not empty, so one more log was accepted than was taken
    have hlt : d.taken < (logs (accepted h)).length := by
      by_contra hge
      rw [List.drop_eq_nil_of_le (Nat.not_lt.mp hge)] at hdrop
      simp at hdrop
    rw [logs, List.length_map] at hlt
    rw [taken, accepted_append, List.length_append]
    omega
  · -- what is left of the queue is what was accepted behind the log that is taken
    have htail : rest = (logs (accepted h)).drop (d.taken + 1) := by
      rw [← List.drop_drop, ← hdrop]
      rfl
    rw [queue, Queue.refill_items, taken, accepted_append, logs_append,
      List.drop_append_of_le_length, ← htail]
    · rfl
    · have := congrArg List.length hdrop
      rw [List.length_drop, List.length_cons] at this
      omega

/-- Whoever gives up a kept place leaves it to whoever waits longest. -/
theorem Stock.released (hs : Stock C h d) {t : Nat} (kept : t ∈ d.queue.kept)
    (queue : d'.queue = ({ d.queue with kept := d.queue.kept.erase t } : Queue Log).refill.2)
    (taken : d'.taken = d.taken) (entries : accepted seen = accepted d.queue.served) :
    Stock C (h ++ seen) d' := by
  have isOpen : d.queue.isOpen = true := hs.sound.isOpen_of_kept kept
  -- giving up a kept place frees one place
  have hload : ({ d.queue with kept := d.queue.kept.erase t } : Queue Log).load + 1
      = d.queue.load := by
    have hpos : 0 < d.queue.kept.length := List.length_pos_of_mem kept
    simp only [Queue.load, List.length_erase_of_mem kept]
    omega
  have hle : d.queue.load ≤ d.queue.capacity := hs.sound.load_le
  refine stock_of_items ?_ ?_ ?_ ?_
  · rw [queue, Queue.refill_capacity]
    exact hs.capacity
  · rw [queue]
    refine Queue.Sound.refill isOpen ?_ fun hw => ?_
    · change _ < d.queue.capacity
      omega
    · rw [hload]
      exact hs.sound.full hw
  · rw [accepted_append, taken, List.length_append]
    exact Nat.le_add_right_of_le hs.taken_le
  · rw [queue, Queue.refill_items, taken, accepted_append, entries, logs_drop_append hs,
      ← hs.items_eq isOpen]
    rfl

theorem Stock.turn (hs : Stock C h d) (turn : Turn a d seen d') : Stock C (h ++ seen) d' := by
  cases turn with
  | took stage items => exact hs.took items rfl rfl
  | connecting stage dial goesOn => exact hs.still hs.sound rfl rfl rfl rfl rfl
  | connected stage dial => exact hs.still hs.sound rfl rfl rfl rfl rfl
  | sent stage => exact hs.still hs.sound rfl rfl rfl rfl rfl
  | acknowledged stage arrived answer => exact hs.still hs.sound rfl rfl rfl rfl rfl
  | refused stage arrived answer => exact hs.still hs.sound rfl rfl rfl rfl rfl
  | woke stage due => exact hs.still hs.sound rfl rfl rfl rfl rfl

/-- **Every move keeps the stock.** -/
theorem Stock.step (hs : Stock C h d) (step : Step a h d seen d') : Stock C (h ++ seen) d' := by
  cases step with
  | start stage isOpen => exact hs.still hs.sound rfl rfl rfl rfl rfl
  | drop stage => exact hs.close rfl rfl (accepted_dismissed d)
  | offered fresh isOpen room =>
    exact hs.enter isOpen (hs.sound.push isOpen room _) rfl rfl rfl rfl
  | @declined t l r fresh refused =>
    refine hs.still hs.sound rfl rfl rfl rfl ?_
    cases r with
    | accepted => exact absurd rfl refused
    | full => rfl
    | closed => rfl
  | enqueued there fresh isOpen room =>
    exact hs.enter isOpen (hs.sound.push isOpen room _) rfl rfl rfl rfl
  | waited there fresh isOpen full =>
    exact hs.still (hs.sound.wait isOpen full _) rfl rfl rfl rfl rfl
  | turnedAway there fresh closed => exact hs.still hs.sound rfl rfl rfl rfl rfl
  | cameBack request kept =>
    exact hs.enter (hs.sound.isOpen_of_kept kept) (hs.sound.fill kept _) rfl rfl rfl rfl
  | released request kept => exact hs.released kept rfl rfl rfl
  | withdrew request kept => exact hs.still (hs.sound.filter _) rfl rfl rfl rfl rfl
  | missed => exact hs.still hs.sound rfl rfl rfl rfl rfl
  | leave => exact hs.still hs.sound rfl rfl rfl rfl rfl
  | cancel => exact hs.still hs.sound rfl rfl rfl rfl rfl
  | wait t => exact hs.still hs.sound rfl rfl rfl rfl rfl
  | turn turn => exact hs.turn turn
  | @ending s _ silent ending =>
    have hn : accepted (s ++ d.dismissed) = [] := by
      -- an ending shows nothing that is accepted
      rcases silent with rfl | rfl <;> rw [accepted_append, accepted_dismissed] <;> rfl
    cases ending with
    | unconnected stage cancelled link => exact hs.close rfl rfl hn
    | exhausted stage left drained => exact hs.close rfl rfl hn
    | resigned stage cancelled => exact hs.close rfl rfl hn

/-- **The stock after any run.** -/
theorem Run.stock {broker : β} {q : Queue Log} {ids : IdStream} (hq : Queue.new? C = some q)
    (run : Run a (.new broker q ids) h d) : Stock C h d :=
  run.keeps (Stock.begin hq) fun hs step => hs.step step

/-! ### The receiver of the queue -/

/-- Whether the dispatcher was started and has not ended. -/
def Running (d : Dispatcher β) : Prop :=
  d.stage ≠ .dormant ∧ ∀ time, d.stage ≠ .stopped time

/-- The queue has its receiver while the dispatcher runs, and loses it when the dispatcher ends. -/
structure Receiving (d : Dispatcher β) : Prop where
  running : d.Running → d.queue.isOpen = true
  stopped : ∀ time, d.stage = .stopped time → d.queue.isOpen = false

theorem Receiving.same (hr : Receiving d) (stage : d'.stage = d.stage)
    (isOpen : d'.queue.isOpen = d.queue.isOpen) : Receiving d' where
  running := by
    rw [Running, stage, isOpen]
    exact hr.running
  stopped := by
    rw [stage, isOpen]
    exact hr.stopped

/-- Only a dispatcher that runs makes a turn, and it runs on. -/
theorem Turn.running {seen : List Sight} (turn : Turn a d seen d') :
    d.Running ∧ ∀ time, d'.stage ≠ .stopped time := by
  cases turn with
  | connecting stage dial goesOn => exact ⟨⟨by simp [stage], by simp [stage]⟩, by simp⟩
  | connected stage dial => exact ⟨⟨by simp [stage], by simp [stage]⟩, by simp [tell]⟩
  | took stage items => exact ⟨⟨by simp [stage], by simp [stage]⟩, by simp [tell, resolve]⟩
  | sent stage => exact ⟨⟨by simp [stage], by simp [stage]⟩, by simp⟩
  | acknowledged stage arrived answer =>
    exact ⟨⟨by simp [stage], by simp [stage]⟩, by simp [tell]⟩
  | refused stage arrived answer => exact ⟨⟨by simp [stage], by simp [stage]⟩, by simp⟩
  | woke stage due => exact ⟨⟨by simp [stage], by simp [stage]⟩, by simp⟩

theorem Turn.started {seen : List Sight} (turn : Turn a d seen d') : d'.stage ≠ .dormant := by
  cases turn <;> simp [tell, resolve]

/-- Only a dispatcher that runs ends. -/
theorem Ending.running (ending : Ending d d') : d.Running := by
  cases ending with
  | unconnected stage cancelled link => exact ⟨by simp [stage], by simp [stage]⟩
  | exhausted stage left drained => exact ⟨by simp [stage], by simp [stage]⟩
  | resigned stage cancelled =>
    rcases stage with stage | ⟨l, m, t, stage⟩
    · exact ⟨by simp [stage], by simp [stage]⟩
    · exact ⟨by simp [stage], by simp [stage]⟩

theorem Receiving.turn (hr : Receiving d) {seen : List Sight} (turn : Turn a d seen d') :
    Receiving d' := by
  refine ⟨fun _ => ?_, fun time htime => absurd htime (turn.running.2 time)⟩
  rw [turn.isOpen_eq]
  exact hr.running turn.running.1

theorem Receiving.step (hr : Receiving d) (step : Step a h d seen d') : Receiving d' := by
  cases step with
  | start stage isOpen => exact ⟨fun _ => isOpen, by simp [Dispatcher.start, tell]⟩
  | drop stage =>
    refine ⟨fun hrun => absurd stage hrun.1, fun time htime => ?_⟩
    rw [show d.closeQueue.stage = d.stage from rfl, stage] at htime
    exact absurd htime (by simp)
  | released request kept => exact hr.same rfl (Queue.refill_isOpen _)
  | turn turn => exact hr.turn turn
  | ending silent ending =>
    refine ⟨fun hrun => ?_, fun _ _ => ending.isOpen_eq_false⟩
    cases ending with
    | unconnected stage cancelled link => exact absurd rfl (hrun.2 _)
    | exhausted stage left drained => exact absurd rfl (hrun.2 _)
    | resigned stage cancelled => exact absurd rfl (hrun.2 _)
  | _ => exact hr.same rfl rfl

theorem Run.receiving {broker : β} {q : Queue Log} {ids : IdStream} (hq : Queue.new? C = some q)
    (run : Run a (.new broker q ids) h d) : Receiving d := by
  refine run.keeps (P := fun _ d => Receiving d) ?_ fun hr step => hr.step step
  obtain ⟨rfl, -⟩ := Queue.new?_eq_some hq
  exact ⟨fun _ => rfl, by simp [Dispatcher.new]⟩

/-- **A receiver that has gone away does not come back**, and nothing enters its queue. -/
theorem Stock.closed (hs : Stock C h d) (closed : d.queue.isOpen = false)
    (step : Step a h d seen d') : d'.queue.isOpen = false ∧ accepted seen = [] := by
  obtain ⟨hitems, hkept, -⟩ := hs.sound.closed closed
  cases step with
  | start stage isOpen => exact absurd (closed.symm.trans isOpen) (by simp)
  | drop stage => exact ⟨rfl, accepted_dismissed d⟩
  | offered fresh isOpen room => exact absurd (closed.symm.trans isOpen) (by simp)
  | @declined t l r fresh refused =>
    refine ⟨closed, ?_⟩
    cases r with
    | accepted => exact absurd rfl refused
    | full => rfl
    | closed => rfl
  | enqueued there fresh isOpen room => exact absurd (closed.symm.trans isOpen) (by simp)
  | waited there fresh isOpen full => exact absurd (closed.symm.trans isOpen) (by simp)
  | cameBack request kept => exact absurd (hkept ▸ kept) List.not_mem_nil
  | released request kept => exact absurd (hkept ▸ kept) List.not_mem_nil
  | turn turn =>
    refine ⟨turn.isOpen_eq.trans closed, ?_⟩
    cases turn with
    -- a closed queue is empty, so nothing is taken from it
    | took stage items => exact absurd (hitems.symm.trans items) (by simp)
    | _ => rfl
  | ending silent ending =>
    refine ⟨ending.isOpen_eq_false, ?_⟩
    rcases silent with rfl | rfl <;> rw [accepted_append, accepted_dismissed] <;> rfl
  | _ => exact ⟨closed, rfl⟩

end Dispatcher

end AuditRelay
