import AuditRelay.Proofs.Desk
import AuditRelay.Proofs.InTurn
import AuditRelay.Recorder

/-!
# Back pressure

A queue of bounded capacity keeps the producers from running ahead of the broker: whoever finds it
full waits, and a dispatcher that runs holds one log at most besides those in the queue. `Pressure`
collects what can be said about the two of them after any run: how many logs there are, who has to
wait and in which order those who wait are served, and what becomes of all of them when the receiver
goes away.

The facts come from three invariants: `Stock` (what the queue holds), `Attended` (who waits) and
`Progress` (what the broker has taken).
-/

namespace AuditRelay

open History

namespace Dispatcher

variable {β : Type} {a : Assignment β} {C : Nat} {ids : IdStream} {h seen : List Sight}
  {d d' : Dispatcher β}

/-! ### What is accepted, taken and acknowledged -/

/-- **Accepted logs** are those that were taken and those that the queue holds. -/
theorem Stock.accepted_eq (hs : Stock C h d) (isOpen : d.queue.isOpen = true) :
    logs (accepted h) = (logs (accepted h)).take d.taken ++ d.queue.items := by
  rw [hs.items_eq isOpen, List.take_append_drop]

theorem Stock.length_accepted (hs : Stock C h d) (isOpen : d.queue.isOpen = true) :
    (accepted h).length = d.queue.items.length + d.taken := by
  have hlength := congrArg List.length (hs.accepted_eq isOpen)
  have hle : d.taken ≤ (logs (accepted h)).length := by
    rw [logs, List.length_map]
    exact hs.taken_le
  rw [List.length_append, List.length_take, Nat.min_eq_left hle, logs, List.length_map] at hlength
  omega

theorem Stock.items_le (hs : Stock C h d) : d.queue.items.length ≤ C := by
  have hload := hs.sound.load_le
  rw [hs.capacity, Queue.load] at hload
  omega

/-- The dispatcher takes a log only when the broker has acknowledged all logs before it. -/
theorem Progress.taken_le {done : List Handover} {rest : List Call}
    (hp : Progress a ids h d done rest) : d.taken ≤ (acked h).length + 1 := by
  rw [hp.acked_eq]
  cases hp.standing with
  | resting stage count => omega
  | publishing stage count next attempts => omega
  | resigned stage cancelled count next attempts => omega

/-- Every message that is sent is that of a log that was taken. -/
theorem Progress.mem_messages {done : List Handover} {rest : List Call}
    (hp : Progress a ids h d done rest) {c : Call} (hc : c ∈ calls h) :
    c.message ∈ messages a ids h := by
  rcases hp.mem_calls hc with hacked | hand
  · rw [hp.acked_eq] at hacked
    exact hp.inOrder.subset hacked
  · exact hand.next.subset (List.mem_append_right _ (List.mem_singleton.mpr rfl))

/-- A message of a run belongs to a log that was accepted. -/
theorem exists_of_mem_messages {m : Message} (hm : m ∈ messages a ids h) :
    ∃ i t l, (accepted h)[i]? = some (t, l) ∧ m = messageAt a ids i l := by
  obtain ⟨i, hi⟩ := List.getElem?_of_mem hm
  rw [messages, messagesOf, List.getElem?_mapIdx, logs, List.getElem?_map] at hi
  cases hentry : (accepted h)[i]? with
  | none =>
    rw [hentry] at hi
    simp at hi
  | some entry =>
    rw [hentry] at hi
    exact ⟨i, entry.1, entry.2, hentry, (Option.some.inj hi).symm⟩

/-! ### Who waits -/

/-- Whoever was accepted has entered the queue. -/
theorem mem_entrants_of_outcome {t : Nat} (accepted : (t, true) ∈ outcomes h) : t ∈ entrants h := by
  obtain ⟨s, hs, ho⟩ := List.mem_filterMap.mp accepted
  cases s with
  | offered t' l r =>
    cases r with
    | accepted =>
      obtain ⟨rfl, -⟩ := Prod.mk.inj (Option.some.inj ho)
      exact List.mem_map.mpr ⟨(t', l), List.mem_filterMap.mpr ⟨_, hs, rfl⟩, rfl⟩
    | full => exact absurd ho (by simp [outcome?])
    | closed => exact absurd ho (by simp [outcome?])
  | admitted t' l =>
    obtain ⟨rfl, -⟩ := Prod.mk.inj (Option.some.inj ho)
    exact List.mem_map.mpr ⟨(t', l), List.mem_filterMap.mpr ⟨_, hs, rfl⟩, rfl⟩
  | _ => exact absurd ho (by simp [outcome?])

/-- Someone who has asked waits: there was no answer, and nobody has given up. -/
structure Waits (h : List Sight) (t : Nat) : Prop where
  asked : t ∈ askers h
  unanswered : t ∉ decided h
  stays : .withdrawn t ∉ h

/-- **No place is free while someone waits for one**, except those that are kept for others. -/
theorem Waits.full {t : Nat} (hw : Waits h t) (hs : Stock C h d) (ha : Attended h d)
    (cameBack : ∀ t' l, (d.queue.comeBack t' l).1 = false) :
    d.queue.items.length = C ∧ d.queue.isOpen = true := by
  -- nobody can come back, so no place is kept
  have hkept : d.queue.kept = [] := by
    refine List.eq_nil_iff_forall_not_mem.mpr fun t' ht' => ?_
    have := cameBack t' default
    rw [Queue.comeBack, if_pos (List.contains_iff_mem.mpr ht')] at this
    exact absurd this (by simp)
  -- whoever asked and has no answer still waits, so someone does
  have hwaiting : d.queue.waiting ≠ [] := by
    intro hnil
    rcases ha.orderly.accounted hw.asked with hd | hp | hgone
    · exact hw.unanswered hd
    · rw [ha.desk, hnil, hkept] at hp
      exact absurd hp List.not_mem_nil
    · exact hw.stays hgone
  have hload : d.queue.load = C := (hs.sound.full hwaiting).trans hs.capacity
  rw [Queue.load, hkept] at hload
  exact ⟨hload, hs.sound.isOpen_of_waiting hwaiting⟩

/-- Everyone who asked, was not accepted and has not given up learns that the queue is closed. -/
theorem Attended.turned_away (hs : Stock C h d) (ha : Attended h d)
    (closed : d.queue.isOpen = false) {t : Nat} (asked : t ∈ askers h) (left : t ∉ entrants h)
    (stays : .withdrawn t ∉ h) : (t, false) ∈ decisions h := by
  obtain ⟨-, hkept, hwaiting⟩ := hs.sound.closed closed
  -- at a closed queue nobody is left, so everyone was answered or gave up
  rcases ha.orderly.accounted asked with hd | hp | hgone
  · obtain ⟨⟨t', b⟩, hmem, rfl⟩ := List.mem_map.mp hd
    cases b with
    | false => exact hmem
    -- an answer that is no refusal means that the log is in the queue
    | true => exact absurd (mem_entrants_of_outcome (decisions_subset_outcomes h hmem)) left
  · rw [ha.desk, hkept, hwaiting] at hp
    exact absurd hp List.not_mem_nil
  · exact absurd hgone stays

/-- **What a producer is told** is what was decided about its log. -/
theorem Attended.answer? (ha : Attended h d) {p : Pipeline β} (hp : p.dispatcher = d) {t : Nat}
    {b : Bool} (decision : (t, b) ∈ decisions h) :
    p.answer? t = some (if b then .ok () else .error .queueClosed) := by
  -- every answer that was given is a decision of the history
  have htold : ∀ r : Arrival, r ∈ d.arrivals → (r.ticket, r.accepted) ∈ decisions h := by
    intro r hr
    rw [← ha.arrivals]
    exact List.mem_map.mpr ⟨r, List.mem_reverse.mpr hr, rfl⟩
  obtain ⟨r, hr, heq⟩ := List.mem_map.mp (ha.arrivals ▸ decision)
  obtain ⟨ht, -⟩ := Prod.mk.inj heq
  have hsome : (d.arrivals.find? (·.ticket = t)).isSome := by
    rw [List.find?_isSome]
    exact ⟨r, List.mem_reverse.mp hr, decide_eq_true ht⟩
  obtain ⟨found, hfound⟩ := Option.isSome_iff_exists.mp hsome
  have hticket : found.ticket = t := by
    have hfirst := List.find?_some hfound
    simpa using hfirst
  -- the answer that is found is the only one
  have hb : found.accepted = b := by
    have hmem := decisions_subset_outcomes h (htold found (List.mem_of_find?_eq_some hfound))
    rw [hticket] at hmem
    exact ha.orderly.outcome_unique hmem (decisions_subset_outcomes h decision)
  rw [Pipeline.answer?, hp, hfound, Option.map_some, hb]

/-! ### Back pressure -/

/-- **What a bounded queue means** for the dispatcher, the producers and the broker. -/
structure Pressure (C : Nat) (a : Assignment β) (ids : IdStream) (h : List Sight)
    (d : Dispatcher β) : Prop where
  /-- The queue never holds more logs than it has places. -/
  room : d.queue.items.length ≤ C
  /-- Accepted logs were taken or are in the queue, in this order. -/
  accepted : d.queue.isOpen = true →
    logs (accepted h) = (logs (accepted h)).take d.taken ++ d.queue.items ∧
      (accepted h).length = d.queue.items.length + d.taken
  /-- One log at most was taken and is not acknowledged. -/
  taken : d.taken ≤ (acked h).length + 1
  /-- A dispatcher that runs has the receiver of the queue. -/
  running : d.Running → d.queue.isOpen = true
  /-- There is one more log to acknowledge at most than the queue has places, also when those in the
  queue are lost with it. -/
  unacknowledged : (History.accepted h).length ≤ (acked h).length + C + 1
  /-- When everyone who has a place kept has come back, someone waits only if the queue is full and
  has its receiver. -/
  full : ∀ t, Waits h t → (∀ t' l, (d.queue.comeBack t' l).1 = false) →
    d.queue.items.length = C ∧ d.queue.isOpen = true
  /-- A ticket is used for one log. -/
  distinct : (tickets h).Nodup
  /-- Places are given in the order in which the logs were brought, and those who wait come behind
  all who were served, in the same order. -/
  order : (placed h ++ d.queue.waiting.map (·.ticket)).Sublist (tickets h)
  /-- No log enters the queue without a place. -/
  entered : entrants h ⊆ placed h
  /-- The logs of those who stay enter the queue in the order in which places are given. -/
  prompt : ((entrants h).filter (· ∉ goers h)).Sublist (placed h)
  /-- A dispatcher that has ended has dropped the receiver. -/
  stopped : ∀ time, d.stage = .stopped time → d.queue.isOpen = false
  /-- The receiver does not come back, and nothing is accepted without it. -/
  forGood : d.queue.isOpen = false → ∀ m seen d', m.Proper h → d.step? a m = some (seen, d') →
    d'.queue.isOpen = false ∧ History.accepted seen = []
  /-- Without the receiver nobody waits any more: whoever was not accepted before learns that the
  queue is closed. -/
  turnedAway : d.queue.isOpen = false → ∀ t ∈ askers h, t ∉ entrants h → .withdrawn t ∉ h →
    ∀ p : Pipeline β, p.dispatcher = d → p.answer? t = some (.error .queueClosed)
  /-- And whoever comes later learns it at once, whether it waits or not. -/
  closed : d.queue.isOpen = false → ∀ t stays l,
    (d.offer l).1 = .closed ∧ (d.submit t stays l).1 = .closed
  /-- Recorders report it. -/
  recorded : d.queue.isOpen = false → ∀ r : Recorder β, r.pipeline.dispatcher = d →
    r.pipeline.disabled = false → ∀ l, (r.record l).1 = some (.error .queueClosed) ∧
      (r.call l).1.receipt.ending = some (.error .queueClosed)
  /-- The broker gets messages of accepted logs only, and none that was refused. -/
  handed : ∀ c ∈ calls h, ∃ i t l, (History.accepted h)[i]? = some (t, l) ∧
    c.message = messageAt a ids i l ∧ (t, false) ∉ outcomes h

/-- A closed queue is closed for everyone who comes. -/
theorem submit_closed (closed : d.queue.isOpen = false) (t : Nat) (stays : Bool) (l : Log) :
    (d.offer l).1 = .closed ∧ (d.submit t stays l).1 = .closed := by
  constructor
  · rw [offer, Queue.offer_closed closed]
  · rw [submit, Queue.submit, Queue.offer_closed closed]

/-- A recorder reports that the queue is closed. -/
theorem record_closed (closed : d.queue.isOpen = false) {r : Recorder β}
    (dispatcher : r.pipeline.dispatcher = d) (enabled : r.pipeline.disabled = false) (l : Log) :
    (r.record l).1 = some (.error .queueClosed) ∧
      (r.call l).1.receipt.ending = some (.error .queueClosed) := by
  have hsubmit : ∀ t stays, (r.pipeline.submit t stays l).1 = .closed := by
    intro t stays
    have hclosed := (submit_closed closed t stays l).2
    rw [Pipeline.submit, enabled, if_neg (by simp), dispatcher]
    simp only [hclosed]
  constructor
  · simp only [Recorder.record, hsubmit]
    rfl
  · simp only [Recorder.call, hsubmit]
    rfl

/-- **Back pressure.** After any run of a dispatcher whose queue has `C` places. -/
theorem pressure {broker : β} {q : Queue Log} (capacity : Queue.new? C = some q)
    (run : Run a (.new broker q ids) h d) : Pressure C a ids h d := by
  have hs : Stock C h d := run.stock capacity
  have ha : Attended h d := run.attended capacity
  have hr : Receiving d := run.receiving capacity
  obtain ⟨done, rest, hp⟩ := run.progress capacity
  refine {
    room := hs.items_le
    accepted := fun isOpen => ⟨hs.accepted_eq isOpen, hs.length_accepted isOpen⟩
    taken := hp.taken_le
    running := hr.running
    unacknowledged := ?_
    full := fun t hw cameBack => hw.full hs ha cameBack
    distinct := ha.orderly.nodup_tickets
    order := ?_
    entered := ha.orderly.entrants_subset_placed
    prompt := ha.orderly.prompt
    stopped := hr.stopped
    forGood := fun closed m seen d' proper made =>
      hs.closed closed (step_of_step? proper made)
    turnedAway := fun closed t asked left stays p dispatcher =>
      ha.answer? dispatcher (ha.turned_away hs closed asked left stays)
    closed := fun closed t stays l => submit_closed closed t stays l
    recorded := fun closed r dispatcher enabled l => record_closed closed dispatcher enabled l
    handed := fun c hc => ?_ }
  · have haccepted := hs.accepted_le
    have htaken := hp.taken_le
    omega
  · have horder := ha.orderly.order
    rw [ha.desk] at horder
    exact horder
  · obtain ⟨i, t, l, hentry, hmessage⟩ := exists_of_mem_messages (hp.mem_messages hc)
    refine ⟨i, t, l, hentry, hmessage, fun refused => ?_⟩
    have hentrant : t ∈ entrants h :=
      List.mem_map.mpr ⟨(t, l), List.mem_of_getElem? hentry, rfl⟩
    exact ha.orderly.not_mem_entrants_of_refused refused hentrant

theorem rehearsal_pressure :
    (Rehearsal.outcome.2.queue.items.length, Rehearsal.outcome.2.taken,
        (accepted Rehearsal.outcome.1).map (·.1), placed Rehearsal.outcome.1)
      = (1, 2, [0, 1, 2], [0, 1, 2]) ∧
      Pressure 2 Rehearsal.assignment .counted Rehearsal.outcome.1 Rehearsal.outcome.2 :=
  ⟨rfl, pressure Rehearsal.capacity Rehearsal.run⟩

end Dispatcher

end AuditRelay
