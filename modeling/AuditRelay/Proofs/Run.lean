import AuditRelay.Broker.Scripted
import AuditRelay.Dispatch.Dispatcher

/-!
# Runs of a dispatcher

A run is any sequence of moves, made by the dispatcher, by the producers and by whoever holds the
pipeline, in any order: `Run a d₀ h d` says that the moves lead from `d₀` to `d` and that `h` is
what could be seen of them. The moves are those of the dispatcher itself (`Dispatcher.proceed?`,
`Dispatcher.quit?`, `Dispatcher.submit` and the others); `Dispatcher.step?` only adds what is seen
of each. Time may pass at any point, by any amount.

* `History` collects what can be read off a history: which logs the queue accepted and in which
  order, who asked for a place and who got one, which calls were made to the broker and how each
  was answered.
* `Turn` and `Ending` say everything that the dispatcher's own two moves can do, and `Step` adds
  what the producers do. Every invariant of a run is proved from them and never unfolds `proceed?`
  or `quit?` again.
* `run_follow` ties the clock to the runs: what a dispatcher does in time is one of them.

Producers are told apart by tickets, and a ticket is used for one log only (`Move.Proper`).
-/

namespace AuditRelay

/-- What can be seen of a run. -/
inductive Sight where
  /-- A producer offers a log without waiting, and is answered at once. -/
  | offered (ticket : Nat) (l : Log) (r : Queue.Admission)
  /-- A producer asks for a place for a log and waits for it; it stays or goes away. -/
  | asked (ticket : Nat) (l : Log) (stays : Bool)
  /-- A producer that has asked is given a place. -/
  | placed (ticket : Nat)
  /-- The log of a producer that has asked is in the queue. -/
  | admitted (ticket : Nat) (l : Log)
  /-- A producer that has asked learns that the queue is closed. -/
  | turnedAway (ticket : Nat)
  /-- A producer that has asked gives up. -/
  | withdrawn (ticket : Nat)
  /-- A call to the broker begins. -/
  | sent (m : Message)
  /-- The broker has answered the last call. -/
  | answered (r : Except Failure Nat)
  /-- The last call is given up before it is answered. -/
  | givenUp

/-- Whether a sight can come of what the dispatcher does, and not only of what producers do. -/
def Sight.isOwn : Sight → Bool
  | .offered .. => false
  | .asked .. => false
  | .withdrawn _ => false
  | _ => true

/-- A call to the broker and how it was answered, if it was. -/
structure Call where
  message : Message
  outcome : Option (Except Failure Nat)

namespace Call

/-- Whether the broker has taken the message. -/
def isAcked (c : Call) : Bool :=
  match c.outcome with
  | some (.ok _) => true
  | _ => false

/-- Whether the broker has refused the message. -/
def isRefused (c : Call) : Bool :=
  match c.outcome with
  | some (.error _) => true
  | _ => false

end Call

/-! ### What a history shows -/

namespace History

/-- The ticket of a log that a producer brings. -/
def ticket? : Sight → Option Nat
  | .offered t _ _ => some t
  | .asked t _ _ => some t
  | _ => none

/-- A log that the queue accepts, with its ticket. -/
def acceptance? : Sight → Option (Nat × Log)
  | .offered t l .accepted => some (t, l)
  | .admitted t l => some (t, l)
  | _ => none

/-- A log for which a place is asked, with its ticket. -/
def request? : Sight → Option (Nat × Log)
  | .asked t l _ => some (t, l)
  | _ => none

/-- Who is given a place, after waiting for it or at once. -/
def place? : Sight → Option Nat
  | .offered t _ .accepted => some t
  | .placed t => some t
  | _ => none

/-- Who asks for a place and does not stay. -/
def goer? : Sight → Option Nat
  | .asked t _ false => some t
  | _ => none

/-- Whose log the queue has accepted or refused. -/
def outcome? : Sight → Option (Nat × Bool)
  | .offered t _ .accepted => some (t, true)
  | .offered t _ _ => some (t, false)
  | .admitted t _ => some (t, true)
  | .turnedAway t => some (t, false)
  | _ => none

/-- How the asking of a producer ends: its log is in the queue, or the queue is closed. -/
def decision? : Sight → Option (Nat × Bool)
  | .admitted t _ => some (t, true)
  | .turnedAway t => some (t, false)
  | _ => none

/-- All tickets, in the order in which they were used. -/
def tickets (h : List Sight) : List Nat := h.filterMap ticket?

/-- The logs that the queue has accepted, in the order in which it accepted them. -/
def accepted (h : List Sight) : List (Nat × Log) := h.filterMap acceptance?

/-- The logs for which a place was asked, in the order in which this was done. -/
def asked (h : List Sight) : List (Nat × Log) := h.filterMap request?

/-- Those who were given a place, in the order in which they were. -/
def placed (h : List Sight) : List Nat := h.filterMap place?

/-- Those who have asked for a place and did not stay. -/
def goers (h : List Sight) : List Nat := h.filterMap goer?

/-- What the queue has decided about the logs, in the order in which it did. -/
def outcomes (h : List Sight) : List (Nat × Bool) := h.filterMap outcome?

/-- How the asking of producers has ended, in the order in which it did. -/
def decisions (h : List Sight) : List (Nat × Bool) := h.filterMap decision?

/-- The logs alone. -/
def logs (entries : List (Nat × Log)) : List Log := entries.map (·.2)

/-- All of it can come of what the dispatcher does. -/
def Own (seen : List Sight) : Prop := ∀ s ∈ seen, s.isOwn = true

/-- Puts what is seen into the list of calls: an answer belongs to the last of them. -/
def note (calls : List Call) : Sight → List Call
  | .sent m => calls ++ [⟨m, none⟩]
  | .answered r =>
    calls.dropLast ++ (calls.getLast?.map fun c => { c with outcome := some r }).toList
  | _ => calls

/-- The calls to the broker, in the order in which they were made. -/
def calls (h : List Sight) : List Call := h.foldl note []

/-- The messages that the broker has acknowledged, in the order in which it did. -/
def acked (h : List Sight) : List Message :=
  ((calls h).filter (·.isAcked)).map (·.message)

section Append

variable (h h' : List Sight)

@[simp] theorem tickets_append : tickets (h ++ h') = tickets h ++ tickets h' :=
  List.filterMap_append ..

@[simp] theorem accepted_append : accepted (h ++ h') = accepted h ++ accepted h' :=
  List.filterMap_append ..

@[simp] theorem asked_append : asked (h ++ h') = asked h ++ asked h' :=
  List.filterMap_append ..

@[simp] theorem placed_append : placed (h ++ h') = placed h ++ placed h' :=
  List.filterMap_append ..

@[simp] theorem goers_append : goers (h ++ h') = goers h ++ goers h' :=
  List.filterMap_append ..

@[simp] theorem outcomes_append : outcomes (h ++ h') = outcomes h ++ outcomes h' :=
  List.filterMap_append ..

@[simp] theorem decisions_append : decisions (h ++ h') = decisions h ++ decisions h' :=
  List.filterMap_append ..

theorem calls_append : calls (h ++ h') = h'.foldl note (calls h) :=
  List.foldl_append ..

@[simp] theorem logs_append (p q : List (Nat × Log)) : logs (p ++ q) = logs p ++ logs q :=
  List.map_append ..

end Append

theorem Own.nil : Own [] :=
  fun _ hs => absurd hs List.not_mem_nil

theorem Own.append {seen seen' : List Sight} (h : Own seen) (h' : Own seen') :
    Own (seen ++ seen') :=
  fun s hs => (List.mem_append.mp hs).elim (h s) (h' s)

/-- The dispatcher brings no logs. -/
theorem Own.tickets_eq_nil {seen : List Sight} (h : Own seen) : tickets seen = [] := by
  refine List.filterMap_eq_nil_iff.mpr fun s hs => ?_
  have hown := h s hs
  cases s with
  | offered t l r => exact absurd hown (by simp [Sight.isOwn])
  | asked t l stays => exact absurd hown (by simp [Sight.isOwn])
  | _ => rfl

/-- What does not belong to a call leaves the calls as they are. -/
theorem calls_append_of_silent {h seen : List Sight}
    (silent : ∀ s ∈ seen, ∀ cs, note cs s = cs) : calls (h ++ seen) = calls h := by
  rw [calls_append]
  -- the calls so far are arbitrary, and each sight leaves them alone
  generalize calls h = cs
  induction seen with
  | nil => rfl
  | cons s rest ih =>
    rw [List.foldl_cons, silent s List.mem_cons_self]
    exact ih fun s' hs' => silent s' (List.mem_cons_of_mem _ hs')

theorem calls_append_sent (h : List Sight) (m : Message) :
    calls (h ++ [.sent m]) = calls h ++ [⟨m, none⟩] := by
  rw [calls_append]; rfl

/-- An answer completes the last call. -/
theorem calls_append_answered {h : List Sight} {cs : List Call} {m : Message}
    {o : Option (Except Failure Nat)} (hc : calls h = cs ++ [⟨m, o⟩]) (r : Except Failure Nat) :
    calls (h ++ [.answered r]) = cs ++ [⟨m, some r⟩] := by
  rw [calls_append, hc]
  simp [note]

section Play

variable {σ μ : Type} {proper : List Sight → μ → Prop} [∀ h m, Decidable (proper h m)]
  {step? : σ → μ → Option (List Sight × σ)} {s₀ : σ}

/-- Makes some moves one after the other, and collects what is seen. A move that cannot be made is
left out. -/
def play (proper : List Sight → μ → Prop) [∀ h m, Decidable (proper h m)]
    (step? : σ → μ → Option (List Sight × σ)) (s₀ : σ) (ms : List μ) : List Sight × σ :=
  ms.foldl (fun s m =>
    if proper s.1 m then
      match step? s.2 m with
      | some (seen, s') => (s.1 ++ seen, s')
      | none => s
    else s) ([], s₀)

/-- What holds at the beginning and is kept by every move holds of what is played. -/
theorem play_keeps {P : List Sight → σ → Prop} (begin : P [] s₀)
    (move : ∀ {h seen m s s'}, P h s → proper h m → step? s m = some (seen, s') →
      P (h ++ seen) s') (ms : List μ) :
    P (play proper step? s₀ ms).1 (play proper step? s₀ ms).2 := by
  unfold play
  generalize hs : (([], s₀) : List Sight × σ) = s
  have hP : P s.1 s.2 := hs ▸ begin
  -- by induction on the moves; it holds of those that were made so far
  clear hs
  induction ms generalizing s with
  | nil => exact hP
  | cons m rest ih =>
    rw [List.foldl_cons]
    refine ih _ ?_
    split
    · next hproper =>
      split
      · next made => exact move hP hproper made
      · exact hP
    · exact hP

end Play

end History

/-! ### Moves -/

/-- The ticket of the first waiting producer and, if it stays, its item: what becomes of them when a
place becomes free (`Queue.refill`). -/
def Queue.served (q : Queue Log) : List Sight :=
  match q.waiting with
  | [] => []
  | ⟨t, some l⟩ :: _ => [.placed t, .admitted t l]
  | ⟨t, none⟩ :: _ => [.placed t]

theorem Queue.mem_served {q : Queue Log} {s : Sight} (hs : s ∈ q.served) :
    (∃ t, s = .placed t) ∨ ∃ t l, s = .admitted t l := by
  unfold Queue.served at hs
  split at hs
  · exact absurd hs List.not_mem_nil
  · next t l rest hw =>
    rcases List.mem_cons.mp hs with rfl | hlast
    · exact Or.inl ⟨t, rfl⟩
    · exact Or.inr ⟨t, l, List.mem_singleton.mp hlast⟩
  · next t rest hw => exact Or.inl ⟨t, List.mem_singleton.mp hs⟩

namespace Dispatcher

variable {β : Type}

/-- What can happen in a run. -/
inductive Move where
  /-- The dispatcher is started. -/
  | start
  /-- The queue loses its receiver before the dispatcher is started. -/
  | drop
  /-- A producer brings a log and does not wait. -/
  | offer (ticket : Nat) (l : Log)
  /-- A producer brings a log and waits for a place; it stays or goes away. -/
  | submit (ticket : Nat) (stays : Bool) (l : Log)
  /-- A producer that has gone away comes back with its log. -/
  | comeBack (ticket : Nat) (l : Log)
  /-- A producer gives up waiting. -/
  | abandon (ticket : Nat)
  /-- The last producer that does not wait goes away. -/
  | leave
  /-- The signal to give up is given. -/
  | cancel
  /-- Time passes until a moment. -/
  | wait (t : Nat)
  /-- The dispatcher goes on with its work. -/
  | proceed
  /-- The dispatcher notices the signal to give up. -/
  | quit

/-- A ticket is used for one log only, and whoever comes back or gives up has asked before. -/
def Move.Proper (h : List Sight) : Move → Prop
  | .offer t _ => t ∉ History.tickets h
  | .submit t _ _ => t ∉ History.tickets h
  | .comeBack t l => (t, l) ∈ History.asked h
  | .abandon t => t ∈ (History.asked h).map (·.1)
  | _ => True

instance (h : List Sight) : (m : Move) → Decidable (m.Proper h)
  | .offer t _ => inferInstanceAs (Decidable (t ∉ History.tickets h))
  | .submit t _ _ => inferInstanceAs (Decidable (t ∉ History.tickets h))
  | .comeBack t l => inferInstanceAs (Decidable ((t, l) ∈ History.asked h))
  | .abandon t => inferInstanceAs (Decidable (t ∈ (History.asked h).map (·.1)))
  | .start | .drop | .leave | .cancel | .wait _ | .proceed | .quit => .isTrue trivial

/-- What is seen of the producers when the receiver of the queue goes away, if it was there. -/
def dismissed (d : Dispatcher β) : List Sight :=
  if d.queue.isOpen then d.queue.close.1.map .turnedAway else []

theorem mem_dismissed {d : Dispatcher β} {s : Sight} (hs : s ∈ d.dismissed) :
    ∃ t, s = .turnedAway t := by
  unfold dismissed at hs
  split at hs
  · obtain ⟨t, -, rfl⟩ := List.mem_map.mp hs
    exact ⟨t, rfl⟩
  · exact absurd hs List.not_mem_nil

/-- What is seen when the dispatcher goes on, the end apart. -/
def working (d : Dispatcher β) : List Sight :=
  match d.stage with
  | .idle => if d.queue.items.isEmpty then [] else d.queue.served
  | .publishing _ m (.ready _) => [.sent m]
  | .publishing _ _ (.asked _ _ reply) => [.answered reply.answer]
  | _ => []

/-- What is seen when the dispatcher notices the signal, the end apart. -/
def resigning (d : Dispatcher β) : List Sight :=
  match d.stage with
  | .publishing _ _ (.asked ..) => [.givenUp]
  | _ => []

/-- Adds what is seen of the producers if a move of the dispatcher has closed the queue. -/
def witnessed (d : Dispatcher β) (seen : List Sight) (d' : Dispatcher β) :
    List Sight × Dispatcher β :=
  (if d'.queue.isOpen then seen else seen ++ d.dismissed, d')

/-- What is seen of a move, and what comes of it; none if it cannot be made. Only those who are
there bring logs, and only a dispatcher that was not started and has its queue is started. -/
def step? (a : Assignment β) (m : Move) (d : Dispatcher β) : Option (List Sight × Dispatcher β) :=
  match m with
  | .start =>
    match d.stage with
    | .dormant => if d.queue.isOpen then some ([], d.start a) else none
    | _ => none
  | .drop =>
    match d.stage with
    | .dormant => some (d.dismissed, d.closeQueue)
    | _ => none
  | .offer t l =>
    if d.producers then some ([.offered t l (d.offer l).1], (d.offer l).2) else none
  | .submit t stays l =>
    if d.producers then
      let seen := match (d.submit t stays l).1 with
        | .accepted => [.asked t l stays, .placed t, .admitted t l]
        | .closed => [.asked t l stays, .turnedAway t]
        | .full => [.asked t l stays]
      some (seen, (d.submit t stays l).2)
    else none
  | .comeBack t l =>
    some (if (d.queue.comeBack t l).1 then [.admitted t l] else [], d.comeBack t l)
  | .abandon t =>
    some (.withdrawn t :: (if d.queue.kept.contains t then d.queue.served else []), d.abandon t)
  | .leave => some ([], d.leave)
  | .cancel => some ([], d.cancel)
  | .wait t => some ([], d.waitUntil t)
  | .proceed => (d.proceed? a).map (d.witnessed d.working)
  | .quit => (d.quit? a).map (d.witnessed d.resigning)

/-- **Runs.** Moves that lead from one state to another, and what is seen of them. -/
inductive Run (a : Assignment β) (d₀ : Dispatcher β) : List Sight → Dispatcher β → Prop where
  | begin : Run a d₀ [] d₀
  | move {h seen : List Sight} {m : Move} {d d' : Dispatcher β} (run : Run a d₀ h d)
      (proper : m.Proper h) (made : d.step? a m = some (seen, d')) : Run a d₀ (h ++ seen) d'

/-- Makes some moves one after the other. -/
def play (a : Assignment β) (d₀ : Dispatcher β) (ms : List Move) : List Sight × Dispatcher β :=
  History.play (fun h m => m.Proper h) (fun d m => d.step? a m) d₀ ms

/-- What is played is a run. -/
theorem run_play (a : Assignment β) (d₀ : Dispatcher β) (ms : List Move) :
    Run a d₀ (play a d₀ ms).1 (play a d₀ ms).2 :=
  History.play_keeps .begin (fun run proper made => run.move proper made) ms

/-! ### Everything that a move can do

The moves that do not end the dispatcher are the constructors of `Turn`, the three ways in which it
ends those of `Ending`, and `Step` adds what the producers do. -/

variable {a : Assignment β} {d d' : Dispatcher β}

/-- What the dispatcher does when it goes on and does not end. -/
inductive Turn (a : Assignment β) (d : Dispatcher β) : List Sight → Dispatcher β → Prop where
  /-- Connecting goes on. -/
  | connecting {t t' : Trial Unit} {w : Worker β} (stage : d.stage = .connecting t)
      (dial : Worker.dial? a.connector a.interval (t, d.worker) = some (t', w))
      (goesOn : t'.isOver = false) :
      Turn a d [] { d with worker := w, stage := .connecting t' }
  /-- The broker is connected. -/
  | connected {t : Trial Unit} {made : Nat} {w : Worker β} (stage : d.stage = .connecting t)
      (dial : Worker.dial? a.connector a.interval (t, d.worker) = some (.succeeded made (), w)) :
      Turn a d [] ({ d with worker := w, stage := .idle }.tell (running a))
  /-- A log is taken from the queue and made into a message. -/
  | took {raw : Log} {rest : List Log} (stage : d.stage = .idle)
      (items : d.queue.items = raw :: rest) :
      Turn a d d.queue.served
        (({ d with
            queue := ({ d.queue with items := rest } : Queue Log).refill.2
            ids := d.ids.draw.2
            taken := d.taken + 1
            stage := .publishing (raw.enrich a.settings.origin d.ids.draw.1)
              (a.message d.taken (raw.enrich a.settings.origin d.ids.draw.1)) .start }.resolve
            ({ d.queue with items := rest } : Queue Log).refill.1.toList true).tell
          (Worker.posting (raw.enrich a.settings.origin d.ids.draw.1)
            (a.message d.taken (raw.enrich a.settings.origin d.ids.draw.1))))
  /-- A call to the broker begins. -/
  | sent {l : Log} {m : Message} {made : Nat} (stage : d.stage = .publishing l m (.ready made)) :
      Turn a d [.sent m]
        { d with
          worker := { d.worker with
            broker := (a.connector.send m d.worker.broker).2
            sends := (d.worker.now, m) :: d.worker.sends }
          stage := .publishing l m
            (.asked (made + 1) d.worker.now (a.connector.send m d.worker.broker).1) }
  /-- The broker has taken the message. -/
  | acknowledged {l : Log} {m : Message} {made since sequence : Nat} {reply : Reply Nat}
      (stage : d.stage = .publishing l m (.asked made since reply))
      (arrived : reply.hasArrived since d.worker.now = true)
      (answer : reply.answer = .ok sequence) :
      Turn a d [.answered (.ok sequence)]
        ({ d with
          worker := { d.worker with
            stats := { d.worker.stats with published := d.worker.stats.published + 1 } }.tellAll
              reply.events
          stage := .idle }.tell (published sequence made))
  /-- The broker has refused the message. -/
  | refused {l : Log} {m : Message} {made since : Nat} {reply : Reply Nat} {e : Failure}
      (stage : d.stage = .publishing l m (.asked made since reply))
      (arrived : reply.hasArrived since d.worker.now = true)
      (answer : reply.answer = .error e) :
      Turn a d [.answered (.error e)]
        { d with
          worker := ({ d.worker with
            stats := { d.worker.stats with retries := d.worker.stats.retries + 1 } }.tellAll
              reply.events).tell (Worker.postFailed m made e a.interval)
          stage := .publishing l m (.paused made (d.worker.now + Pause.length a.interval)) }
  /-- A pause between two calls is over. -/
  | woke {l : Log} {m : Message} {made wake : Nat}
      (stage : d.stage = .publishing l m (.paused made wake)) (due : wake ≤ d.worker.now) :
      Turn a d [] { d with stage := .publishing l m (.ready made) }

/-- How a dispatcher ends. -/
inductive Ending (d : Dispatcher β) : Dispatcher β → Prop where
  /-- The signal to give up came before the broker was connected. -/
  | unconnected {t : Trial Unit} {w : Worker β} (stage : d.stage = .connecting t)
      (cancelled : d.worker.cancelled = true) (link : w = { d.worker with link := w.link }) :
      Ending d ({ d with worker := w }.tell unconnected).stop
  /-- Nothing will come out of the queue any more. -/
  | exhausted (stage : d.stage = .idle) (left : d.producers = false)
      (drained : d.queue.drained = true) : Ending d (d.tell exhausted).finish
  /-- The signal to give up came later. -/
  | resigned (stage : d.stage = .idle ∨ ∃ l m t, d.stage = .publishing l m t)
      (cancelled : d.worker.cancelled = true) : Ending d d.finish

theorem Turn.isOpen_eq {seen : List Sight} (h : Turn a d seen d') :
    d'.queue.isOpen = d.queue.isOpen := by
  cases h with
  | took stage items =>
    change (Queue.refill _).2.isOpen = _
    unfold Queue.refill
    split <;> rfl
  | _ => rfl

theorem Ending.isOpen_eq_false (h : Ending d d') : d'.queue.isOpen = false := by
  cases h <;> rfl

/-- What going on with connecting can do. -/
inductive Dial (c : Connector β) (i : Nat) (w : Worker β) :
    Trial Unit → Trial Unit → Worker β → Prop where
  /-- The signal to give up is noticed between two attempts. -/
  | quit {made : Nat} (cancelled : w.cancelled = true) :
      Dial c i w (.ready made) .cancelled { w with link := .disconnected }
  /-- An attempt begins. -/
  | asked {made : Nat} (uncancelled : w.cancelled = false) :
      Dial c i w (.ready made) (.asked (made + 1) w.now (c.connect w.broker).1)
        { w with
          broker := (c.connect w.broker).2
          link := .connecting
          dials := (w.now, .connecting) :: w.dials }
  /-- The broker is connected. -/
  | succeeded {made since : Nat} {reply : Reply Unit}
      (arrived : reply.hasArrived since w.now = true) (answer : reply.answer = .ok ()) :
      Dial c i w (.asked made since reply) (.succeeded made ())
        (({ w with link := .connected }.tellAll reply.events).tell (Worker.dialed c made))
  /-- The attempt has failed. -/
  | failed {made since : Nat} {reply : Reply Unit} {e : Failure}
      (arrived : reply.hasArrived since w.now = true) (answer : reply.answer = .error e) :
      Dial c i w (.asked made since reply) (.paused made (w.now + Pause.length i))
        (({ w with link := .disconnected }.tellAll reply.events).tell
          (Worker.dialFailed made e i))
  /-- The pause after a failure is over. -/
  | woke {made wake : Nat} (due : wake ≤ w.now) : Dial c i w (.paused made wake) (.ready made) w

theorem dial_of_dial? {c : Connector β} {i : Nat} {t t' : Trial Unit} {w w' : Worker β}
    (dial : Worker.dial? c i (t, w) = some (t', w')) : Dial c i w t t' w' := by
  cases t with
  | ready made =>
    simp only [Worker.dial?] at dial
    split at dial
    · next hc =>
      obtain ⟨rfl, rfl⟩ := Prod.mk.inj (Option.some.inj dial)
      exact .quit hc
    · next hc =>
      obtain ⟨rfl, rfl⟩ := Prod.mk.inj (Option.some.inj dial)
      exact .asked (Bool.eq_false_iff.mpr hc)
  | asked made since reply =>
    simp only [Worker.dial?] at dial
    split at dial
    · next ha =>
      split at dial
      · next hr =>
        obtain ⟨rfl, rfl⟩ := Prod.mk.inj (Option.some.inj dial)
        exact .succeeded ha hr
      · next e hr =>
        obtain ⟨rfl, rfl⟩ := Prod.mk.inj (Option.some.inj dial)
        exact .failed ha hr
    · simp at dial
  | paused made wake =>
    simp only [Worker.dial?] at dial
    split at dial
    · next hd =>
      obtain ⟨rfl, rfl⟩ := Prod.mk.inj (Option.some.inj dial)
      exact .woke hd
    · simp at dial
  | succeeded made r => simp [Worker.dial?] at dial
  | cancelled => simp [Worker.dial?] at dial

/-- Connecting leaves alone what belongs to messages. -/
theorem Dial.frame {c : Connector β} {i : Nat} {t t' : Trial Unit} {w w' : Worker β}
    (h : Dial c i w t t' w') :
    w'.stats = w.stats ∧ w'.sends = w.sends ∧ w'.cancelled = w.cancelled ∧ w'.now = w.now := by
  cases h <;> exact ⟨rfl, rfl, rfl, rfl⟩

/-- The signal to give up ends connecting only between two attempts. -/
theorem Dial.cancelled_of {c : Connector β} {i : Nat} {t : Trial Unit} {w w' : Worker β}
    (h : Dial c i w t .cancelled w') : w.cancelled = true ∧ w' = { w with link := w'.link } := by
  cases h with
  | quit cancelled => exact ⟨cancelled, rfl⟩

/-- What going on with publishing can do. -/
inductive Post (c : Connector β) (i : Nat) (m : Message) (w : Worker β) :
    Trial Nat → Trial Nat → Worker β → Prop where
  /-- A call begins. -/
  | sent {made : Nat} :
      Post c i m w (.ready made) (.asked (made + 1) w.now (c.send m w.broker).1)
        { w with broker := (c.send m w.broker).2, sends := (w.now, m) :: w.sends }
  /-- The broker has taken the message. -/
  | acknowledged {made since sequence : Nat} {reply : Reply Nat}
      (arrived : reply.hasArrived since w.now = true) (answer : reply.answer = .ok sequence) :
      Post c i m w (.asked made since reply) (.succeeded made sequence)
        ({ w with stats := { w.stats with published := w.stats.published + 1 } }.tellAll
          reply.events)
  /-- The call has failed. -/
  | refused {made since : Nat} {reply : Reply Nat} {e : Failure}
      (arrived : reply.hasArrived since w.now = true) (answer : reply.answer = .error e) :
      Post c i m w (.asked made since reply) (.paused made (w.now + Pause.length i))
        (({ w with stats := { w.stats with retries := w.stats.retries + 1 } }.tellAll
          reply.events).tell (Worker.postFailed m made e i))
  /-- The pause after a failure is over. -/
  | woke {made wake : Nat} (due : wake ≤ w.now) : Post c i m w (.paused made wake) (.ready made) w

theorem post_of_post? {c : Connector β} {i : Nat} {m : Message} {t t' : Trial Nat}
    {w w' : Worker β} (post : Worker.post? c i m (t, w) = some (t', w')) :
    Post c i m w t t' w' := by
  cases t with
  | ready made =>
    obtain ⟨rfl, rfl⟩ := Prod.mk.inj (Option.some.inj post)
    exact .sent
  | asked made since reply =>
    simp only [Worker.post?] at post
    split at post
    · next ha =>
      split at post
      · next hr =>
        obtain ⟨rfl, rfl⟩ := Prod.mk.inj (Option.some.inj post)
        exact .acknowledged ha hr
      · next e hr =>
        obtain ⟨rfl, rfl⟩ := Prod.mk.inj (Option.some.inj post)
        exact .refused ha hr
    · simp at post
  | paused made wake =>
    simp only [Worker.post?] at post
    split at post
    · next hd =>
      obtain ⟨rfl, rfl⟩ := Prod.mk.inj (Option.some.inj post)
      exact .woke hd
    · simp at post
  | succeeded made r => simp [Worker.post?] at post
  | cancelled => simp [Worker.post?] at post

/-- **What going on can do.** Either the dispatcher makes a turn, or it ends and nothing but the
producers is seen. -/
theorem turn_or_ending_of_proceed? (h : d.proceed? a = some d') :
    Turn a d d.working d' ∨ d.working = [] ∧ Ending d d' := by
  unfold proceed? at h
  cases hs : d.stage with
  | dormant => rw [hs] at h; simp at h
  | stopped t => rw [hs] at h; simp at h
  | connecting t =>
    rw [hs] at h
    obtain ⟨⟨t', w⟩, hd, rfl⟩ := Option.map_eq_some_iff.mp h
    have hw : d.working = [] := by simp [working, hs]
    rw [hw]
    cases t' with
    | succeeded made r => exact Or.inl (.connected hs hd)
    -- connecting ends only by the signal, and then the dispatcher ends
    | cancelled =>
      obtain ⟨hc, hl⟩ := (dial_of_dial? hd).cancelled_of
      exact Or.inr ⟨rfl, .unconnected hs hc hl⟩
    | ready made => exact Or.inl (.connecting hs hd rfl)
    | asked made since reply => exact Or.inl (.connecting hs hd rfl)
    | paused made wake => exact Or.inl (.connecting hs hd rfl)
  | idle =>
    rw [hs] at h
    cases hi : d.queue.items with
    | nil =>
      -- an empty queue ends the dispatcher, if nobody is left to fill it
      have hw : d.working = [] := by simp [working, hs, hi]
      simp only [take?, Queue.take?_eq_none.mpr hi] at h
      split at h
      · next hc =>
        obtain rfl := Option.some.inj h
        rw [Bool.and_eq_true, Bool.not_eq_true'] at hc
        exact Or.inr ⟨hw, .exhausted hs hc.1 hc.2⟩
      · simp at h
    | cons raw rest =>
      have hw : d.working = d.queue.served := by simp [working, hs, hi]
      have taken :
          d.queue.take? = some (raw, ({ d.queue with items := rest } : Queue Log).refill) := by
        rw [Queue.take?, hi]
      simp only [take?_of_taken taken] at h
      obtain rfl := Option.some.inj h
      rw [hw]
      exact Or.inl (.took hs hi)
  | publishing l m t =>
    rw [hs] at h
    obtain ⟨⟨t', w⟩, hp, rfl⟩ := Option.map_eq_some_iff.mp h
    refine Or.inl ?_
    cases post_of_post? hp with
    | sent =>
      rw [show d.working = [.sent m] by simp [working, hs]]
      exact .sent hs
    | @acknowledged _ _ _ reply arrived answer =>
      rw [show d.working = [.answered reply.answer] by simp [working, hs], answer]
      exact .acknowledged hs arrived answer
    | @refused _ _ reply _ arrived answer =>
      rw [show d.working = [.answered reply.answer] by simp [working, hs], answer]
      exact .refused hs arrived answer
    | woke due =>
      rw [show d.working = [] by simp [working, hs]]
      exact .woke hs due

/-- **What noticing the signal can do.** It ends the dispatcher. -/
theorem ending_of_quit? (h : d.quit? a = some d') : Ending d d' := by
  unfold quit? at h
  cases hs : d.stage with
  | dormant => rw [hs] at h; simp at h
  | stopped t => rw [hs] at h; simp at h
  | connecting t =>
    rw [hs] at h
    obtain ⟨⟨t', w⟩, hq, rfl⟩ := Option.map_eq_some_iff.mp h
    cases t with
    -- only a pause between two attempts is cut short
    | paused made wake =>
      simp only [Worker.quitDial?] at hq
      split at hq
      · next hc =>
        obtain ⟨rfl, rfl⟩ : Trial.cancelled = t' ∧ d.worker = w := by simpa using hq
        exact .unconnected hs hc rfl
      · simp at hq
    | ready made => simp [Worker.quitDial?] at hq
    | asked made since reply => simp [Worker.quitDial?] at hq
    | succeeded made r => simp [Worker.quitDial?] at hq
    | cancelled => simp [Worker.quitDial?] at hq
  | idle =>
    rw [hs] at h
    simp only at h
    split at h
    · next hc =>
      obtain rfl := Option.some.inj h
      exact .resigned (Or.inl hs) hc
    · simp at h
  | publishing l m t =>
    rw [hs] at h
    obtain ⟨⟨t', w⟩, hq, rfl⟩ := Option.map_eq_some_iff.mp h
    simp only [Worker.quitPost?] at hq
    split at hq
    · next hc =>
      obtain ⟨rfl, rfl⟩ : Trial.cancelled = t' ∧ d.worker = w := by simpa using hq
      rw [Bool.and_eq_true] at hc
      exact .resigned (Or.inr ⟨l, m, t, hs⟩) hc.1
    · simp at hq

/-- **Everything that can happen.** What a move of a run can do after the history `h`. -/
inductive Step (a : Assignment β) (h : List Sight) (d : Dispatcher β) :
    List Sight → Dispatcher β → Prop where
  | start (stage : d.stage = .dormant) (isOpen : d.queue.isOpen = true) : Step a h d [] (d.start a)
  | drop (stage : d.stage = .dormant) : Step a h d d.dismissed d.closeQueue
  /-- The queue takes a log that is offered. -/
  | offered {t : Nat} {l : Log} (fresh : t ∉ History.tickets h) (isOpen : d.queue.isOpen = true)
      (room : d.queue.load < d.queue.capacity) :
      Step a h d [.offered t l .accepted]
        { d with queue := { d.queue with items := d.queue.items ++ [l] } }
  /-- The queue does not take a log that is offered. -/
  | declined {t : Nat} {l : Log} {r : Queue.Admission} (fresh : t ∉ History.tickets h)
      (refused : r ≠ .accepted) : Step a h d [.offered t l r] d
  /-- A log for which a place is asked finds one at once. -/
  | enqueued {t : Nat} {l : Log} {stays : Bool} (there : d.producers = true)
      (fresh : t ∉ History.tickets h) (isOpen : d.queue.isOpen = true)
      (room : d.queue.load < d.queue.capacity) :
      Step a h d [.asked t l stays, .placed t, .admitted t l]
        ({ d with queue := { d.queue with items := d.queue.items ++ [l] } }.resolve [t] true)
  /-- There is no place, and the producer waits. -/
  | waited {t : Nat} {l : Log} {stays : Bool} (there : d.producers = true)
      (fresh : t ∉ History.tickets h) (isOpen : d.queue.isOpen = true)
      (full : d.queue.capacity ≤ d.queue.load) :
      Step a h d [.asked t l stays]
        { d with queue := { d.queue with
            waiting := d.queue.waiting ++ [⟨t, if stays then some l else none⟩] } }
  /-- The queue is closed. -/
  | turnedAway {t : Nat} {l : Log} {stays : Bool} (there : d.producers = true)
      (fresh : t ∉ History.tickets h) (closed : d.queue.isOpen = false) :
      Step a h d [.asked t l stays, .turnedAway t] (d.resolve [t] false)
  /-- A producer comes back to the place that is kept for it. -/
  | cameBack {t : Nat} {l : Log} (request : (t, l) ∈ History.asked h) (kept : t ∈ d.queue.kept) :
      Step a h d [.admitted t l]
        ({ d with queue := { d.queue with
            items := d.queue.items ++ [l]
            kept := d.queue.kept.erase t } }.resolve [t] true)
  /-- A producer gives up the place that is kept for it. -/
  | released {t : Nat} {l : Log} (request : (t, l) ∈ History.asked h) (kept : t ∈ d.queue.kept) :
      Step a h d (.withdrawn t :: d.queue.served)
        ({ d with
          queue := ({ d.queue with kept := d.queue.kept.erase t } : Queue Log).refill.2 }.resolve
          ({ d.queue with kept := d.queue.kept.erase t } : Queue Log).refill.1.toList true)
  /-- A producer for which no place is kept gives up. -/
  | withdrew {t : Nat} {l : Log} (request : (t, l) ∈ History.asked h) (kept : t ∉ d.queue.kept) :
      Step a h d [.withdrawn t]
        { d with queue := { d.queue with
            waiting := d.queue.waiting.filter fun w => w.ticket ≠ t } }
  /-- A producer comes back in vain. -/
  | missed : Step a h d [] d
  | leave : Step a h d [] d.leave
  | cancel : Step a h d [] d.cancel
  | wait (t : Nat) : Step a h d [] (d.waitUntil t)
  | turn {seen : List Sight} {d' : Dispatcher β} (turn : Turn a d seen d') : Step a h d seen d'
  /-- The dispatcher ends, and the receiver of the queue goes away. -/
  | ending {seen : List Sight} {d' : Dispatcher β} (silent : seen = [] ∨ seen = [.givenUp])
      (ending : Ending d d') :
      Step a h d (seen ++ d.dismissed) d'

/-- What is seen of a turn is what the dispatcher does and nothing else. -/
theorem witnessed_of_turn {seen : List Sight} (h : Turn a d seen d') :
    d.witnessed seen d' = (seen, d') := by
  unfold witnessed dismissed
  -- a turn does not close the queue, so nobody is dismissed
  rw [h.isOpen_eq]
  cases d.queue.isOpen <;> simp

theorem witnessed_of_ending (h : Ending d d') (seen : List Sight) :
    d.witnessed seen d' = (seen ++ d.dismissed, d') := by
  simp [witnessed, h.isOpen_eq_false]

theorem resigning_eq (d : Dispatcher β) : d.resigning = [] ∨ d.resigning = [.givenUp] := by
  unfold resigning
  split
  · exact Or.inr rfl
  · exact Or.inl rfl

theorem step_of_offer {h : List Sight} {t : Nat} {l : Log} (fresh : t ∉ History.tickets h) :
    Step a h d [.offered t l (d.offer l).1] (d.offer l).2 := by
  cases ho : d.queue.isOpen with
  | false =>
    have he : d.offer l = (.closed, d) := by simp [offer, Queue.offer_closed ho]
    rw [he]
    exact .declined fresh (by simp)
  | true =>
    -- a queue that is open takes the log if there is room
    by_cases hr : d.queue.load < d.queue.capacity
    · have he : d.offer l
          = (.accepted, { d with queue := { d.queue with items := d.queue.items ++ [l] } }) := by
        simp [offer, Queue.offer_accepted ho hr]
      rw [he]
      exact .offered fresh ho hr
    · have he : d.offer l = (.full, d) := by simp [offer, Queue.offer_full ho (Nat.not_lt.mp hr)]
      rw [he]
      exact .declined fresh (by simp)

theorem step_of_submit {h : List Sight} {t : Nat} {stays : Bool} {l : Log}
    {seen : List Sight} (fresh : t ∉ History.tickets h)
    (made : d.step? a (.submit t stays l) = some (seen, d')) : Step a h d seen d' := by
  simp only [step?] at made
  split at made
  · next there =>
    obtain ⟨rfl, rfl⟩ := Prod.mk.inj (Option.some.inj made)
    -- a closed queue, one with room, and one that is full
    cases ho : d.queue.isOpen with
    | false =>
      have he : d.submit t stays l = (.closed, d.resolve [t] false) := by
        simp [submit, Queue.submit, Queue.offer_closed ho]
      rw [he]
      exact .turnedAway there fresh ho
    | true =>
      by_cases hr : d.queue.load < d.queue.capacity
      · have he : d.submit t stays l = (.accepted,
            { d with queue := { d.queue with items := d.queue.items ++ [l] } }.resolve [t]
              true) := by
          simp [submit, Queue.submit, Queue.offer_accepted ho hr]
        rw [he]
        exact .enqueued there fresh ho hr
      · have hf : d.queue.capacity ≤ d.queue.load := Nat.not_lt.mp hr
        have he : d.submit t stays l = (.full, { d with queue := { d.queue with
            waiting := d.queue.waiting ++ [⟨t, if stays then some l else none⟩] } }) := by
          simp [submit, Queue.submit, Queue.offer_full ho hf]
        rw [he]
        exact .waited there fresh ho hf
  · simp at made

/-- **Inversion of a move.** -/
theorem step_of_step? {h seen : List Sight} {m : Move} (proper : m.Proper h)
    (made : d.step? a m = some (seen, d')) : Step a h d seen d' := by
  cases m with
  | start =>
    simp only [step?] at made
    split at made
    · next hs =>
      split at made
      · next ho =>
        obtain ⟨rfl, rfl⟩ := Prod.mk.inj (Option.some.inj made)
        exact .start hs ho
      · simp at made
    · simp at made
  | drop =>
    simp only [step?] at made
    split at made
    · next hs =>
      obtain ⟨rfl, rfl⟩ := Prod.mk.inj (Option.some.inj made)
      exact .drop hs
    · simp at made
  | offer t l =>
    simp only [step?] at made
    split at made
    · obtain ⟨rfl, rfl⟩ := Prod.mk.inj (Option.some.inj made)
      exact step_of_offer proper
    · simp at made
  | submit t stays l => exact step_of_submit proper made
  | comeBack t l =>
    -- only a place that is kept can be come back to
    by_cases hk : t ∈ d.queue.kept
    · have hc : d.queue.comeBack t l = (true, { d.queue with
          items := d.queue.items ++ [l], kept := d.queue.kept.erase t }) := by
        simp [Queue.comeBack, hk]
      simp only [step?, comeBack, hc, if_true] at made
      obtain ⟨rfl, rfl⟩ := Prod.mk.inj (Option.some.inj made)
      exact .cameBack proper hk
    · have hc : d.queue.comeBack t l = (false, d.queue) := by simp [Queue.comeBack, hk]
      simp only [step?, comeBack, hc, Bool.false_eq_true, if_false] at made
      obtain ⟨rfl, rfl⟩ := Prod.mk.inj (Option.some.inj made)
      exact .missed
  | abandon t =>
    obtain ⟨e, he, ht⟩ := List.mem_map.mp proper
    have hl : (t, e.2) ∈ History.asked h := ht ▸ he
    -- a kept place goes to the next one; who waits is just struck off
    by_cases hk : t ∈ d.queue.kept
    · have hc : d.queue.abandon t
          = ({ d.queue with kept := d.queue.kept.erase t } : Queue Log).refill := by
        simp [Queue.abandon, hk]
      simp only [step?, abandon, hc, List.contains_iff_mem.mpr hk, if_true] at made
      obtain ⟨rfl, rfl⟩ := Prod.mk.inj (Option.some.inj made)
      exact .released hl hk
    · have hc : d.queue.abandon t = (none, { d.queue with
          waiting := d.queue.waiting.filter fun w => w.ticket ≠ t }) := by
        simp [Queue.abandon, hk]
      have hn : d.queue.kept.contains t = false := by simpa using hk
      simp only [step?, abandon, hc, hn, Bool.false_eq_true, if_false] at made
      obtain ⟨rfl, rfl⟩ := Prod.mk.inj (Option.some.inj made)
      exact .withdrew hl hk
  | leave =>
    obtain ⟨rfl, rfl⟩ := Prod.mk.inj (Option.some.inj made)
    exact .leave
  | cancel =>
    obtain ⟨rfl, rfl⟩ := Prod.mk.inj (Option.some.inj made)
    exact .cancel
  | wait t =>
    obtain ⟨rfl, rfl⟩ := Prod.mk.inj (Option.some.inj made)
    exact .wait t
  | proceed =>
    obtain ⟨e, he, hw⟩ := Option.map_eq_some_iff.mp made
    rcases turn_or_ending_of_proceed? he with ht | ⟨hn, hend⟩
    · rw [witnessed_of_turn ht] at hw
      obtain ⟨rfl, rfl⟩ := Prod.mk.inj hw
      exact .turn ht
    · rw [witnessed_of_ending hend, hn] at hw
      obtain ⟨rfl, rfl⟩ := Prod.mk.inj hw
      exact .ending (Or.inl rfl) hend
  | quit =>
    obtain ⟨e, he, hw⟩ := Option.map_eq_some_iff.mp made
    rw [witnessed_of_ending (ending_of_quit? he)] at hw
    obtain ⟨rfl, rfl⟩ := Prod.mk.inj hw
    exact .ending d.resigning_eq (ending_of_quit? he)

/-- **Induction over a run.** What holds at the beginning and is kept by everything that can happen
holds after every run. -/
theorem Run.keeps {P : List Sight → Dispatcher β → Prop} {d₀ : Dispatcher β} {h : List Sight}
    (begin : P [] d₀)
    (step : ∀ {h seen d d'}, P h d → Step a h d seen d' → P (h ++ seen) d')
    (run : Run a d₀ h d) : P h d := by
  induction run with
  | begin => exact begin
  | move run proper made ih => exact step ih (step_of_step? proper made)

/-! ### The clock makes runs -/

theorem own_served (q : Queue Log) : History.Own q.served := by
  intro s hs
  rcases Queue.mem_served hs with ⟨t, rfl⟩ | ⟨t, l, rfl⟩
  · rfl
  · rfl

theorem own_dismissed (d : Dispatcher β) : History.Own d.dismissed := by
  intro s hs
  obtain ⟨t, rfl⟩ := mem_dismissed hs
  rfl

theorem own_resigning (d : Dispatcher β) : History.Own d.resigning := by
  rcases d.resigning_eq with hr | hr
  · rw [hr]
    exact fun s hs => absurd hs List.not_mem_nil
  · rw [hr]
    exact fun s hs => List.mem_singleton.mp hs ▸ rfl

theorem Turn.own {seen : List Sight} (h : Turn a d seen d') : History.Own seen := by
  cases h with
  | took stage items => exact own_served _
  | _ => simp [History.Own, Sight.isOwn]

/-- What the dispatcher does by itself is a move of a run, and no producer brings anything. -/
theorem Run.act {d₀ : Dispatcher β} {h : List Sight} (run : Run a d₀ h d)
    (act : (clockwork a).act? d = some d') :
    ∃ seen, History.Own seen ∧ Run a d₀ (h ++ seen) d' := by
  rcases Option.or_eq_some_iff.mp act with hq | ⟨-, hp⟩
  · -- the signal comes first, and it ends the dispatcher
    refine ⟨d.resigning ++ d.dismissed, ?_, run.move (m := .quit) trivial ?_⟩
    · exact d.own_resigning.append d.own_dismissed
    · rw [step?, hq, Option.map_some, witnessed_of_ending (ending_of_quit? hq)]
  · have hs : d.step? a .proceed = some (d.witnessed d.working d') := by
      rw [step?, hp, Option.map_some]
    -- otherwise it goes on, by a turn or to its end
    rcases turn_or_ending_of_proceed? hp with ht | ⟨hn, hend⟩
    · rw [witnessed_of_turn ht] at hs
      exact ⟨d.working, ht.own, run.move (m := .proceed) trivial hs⟩
    · rw [witnessed_of_ending hend, hn, List.nil_append] at hs
      exact ⟨d.dismissed, d.own_dismissed, run.move (m := .proceed) trivial hs⟩

theorem Run.settle {d₀ : Dispatcher β} (fuel : Nat) {h : List Sight} {d : Dispatcher β}
    (run : Run a d₀ h d) :
    ∃ seen, History.Own seen ∧
      Run a d₀ (h ++ seen) ((clockwork a).settle fuel d) := by
  induction fuel generalizing h d with
  | zero => exact ⟨[], .nil, by rw [List.append_nil]; exact run⟩
  | succ fuel ih =>
    rw [Clockwork.settle]
    split
    · next d' ha =>
      obtain ⟨seen, hs, run'⟩ := run.act ha
      obtain ⟨seen', hs', run''⟩ := ih run'
      exact ⟨seen ++ seen', hs.append hs', by rw [← List.append_assoc]; exact run''⟩
    · exact ⟨[], .nil, by rw [List.append_nil]; exact run⟩

theorem Run.wait {d₀ : Dispatcher β} {h : List Sight} (run : Run a d₀ h d) (t : Nat) :
    Run a d₀ h (d.waitUntil t) := by
  simpa using run.move (m := .wait t) trivial rfl

theorem Run.runUntil {d₀ : Dispatcher β} (limit : Option Nat) (fuel : Nat) {h : List Sight}
    {d : Dispatcher β} (run : Run a d₀ h d) :
    ∃ seen, History.Own seen ∧
      Run a d₀ (h ++ seen) ((clockwork a).runUntil limit fuel d) := by
  induction fuel generalizing h d with
  | zero => exact ⟨[], .nil, by rw [List.append_nil]; exact run⟩
  | succ fuel ih =>
    simp only [Clockwork.runUntil]
    split
    · next d' ha =>
      obtain ⟨seen, hs, run'⟩ := run.act ha
      obtain ⟨seen', hs', run''⟩ := ih run'
      exact ⟨seen ++ seen', hs.append hs', by rw [← List.append_assoc]; exact run''⟩
    · -- nothing can be done now: time passes, to the next moment or to the limit
      split
      · split
        · exact ih (run.wait _)
        · exact ⟨[], .nil, by rw [List.append_nil]; exact run.wait _⟩
      · exact ih (run.wait _)
      · exact ⟨[], .nil, by rw [List.append_nil]; exact run.wait _⟩
      · exact ⟨[], .nil, by rw [List.append_nil]; exact run⟩

/-- The ticket of a log that an incident brings. -/
def Incident.ticket? : Incident → Option Nat
  | .bring t _ => some t
  | _ => none

theorem Run.incident {d₀ : Dispatcher β} {h : List Sight} (run : Run a d₀ h d) (i : Incident)
    (fresh : ∀ t, i.ticket? = some t → t ∉ History.tickets h) :
    ∃ seen, (∀ t ∈ History.tickets seen, i.ticket? = some t) ∧
      Run a d₀ (h ++ seen) (d.incident i) := by
  cases i with
  | leave => exact ⟨[], by simp [History.tickets], run.move (m := .leave) trivial rfl⟩
  | cancel => exact ⟨[], by simp [History.tickets], run.move (m := .cancel) trivial rfl⟩
  | bring t l =>
    cases hp : d.producers with
    | false =>
      have he : d.incident (.bring t l) = d := by simp [Dispatcher.incident, hp]
      rw [he]
      exact ⟨[], by simp [History.tickets], by rw [List.append_nil]; exact run⟩
    | true =>
      have he : d.incident (.bring t l) = (d.submit t true l).2 := by
        simp [Dispatcher.incident, hp]
      rw [he]
      have hm := run.move (m := .submit t true l) (fresh t rfl) (by rw [step?, if_pos hp])
      refine ⟨_, ?_, hm⟩
      intro t' ht'
      split at ht' <;> simpa [History.tickets, History.ticket?, Incident.ticket?, eq_comm] using ht'

/-- **What a dispatcher does in time is a run.** The tickets of the logs that are brought have to be
new and different. -/
theorem run_follow {d₀ : Dispatcher β} (schedule : List (Nat × Incident)) {h : List Sight}
    {d : Dispatcher β} (run : Run a d₀ h d)
    (new : (schedule.filterMap fun e => e.2.ticket?).Nodup)
    (fresh : ∀ t ∈ schedule.filterMap fun e => e.2.ticket?, t ∉ History.tickets h) :
    ∃ seen, Run a d₀ (h ++ seen) (follow a schedule d) := by
  induction schedule generalizing h d with
  | nil => exact ⟨[], by rw [List.append_nil]; exact run⟩
  | cons e rest ih =>
    -- until the incident, the incident itself, and what follows at once
    obtain ⟨s₁, own₁, run₁⟩ := run.runUntil (some e.1) (d.workload a)
    have ht₁ := own₁.tickets_eq_nil
    have fresh₁ : ∀ t, e.2.ticket? = some t → t ∉ History.tickets (h ++ s₁) := by
      intro t ht
      rw [History.tickets_append, ht₁, List.append_nil]
      exact fresh t (List.mem_filterMap.mpr ⟨e, List.mem_cons_self, ht⟩)
    obtain ⟨s₂, ht₂, run₂⟩ := run₁.incident e.2 fresh₁
    obtain ⟨s₃, own₃, run₃⟩ := run₂.settle (((d.runUntil a e.1).incident e.2).workload a)
    have ht₃ := own₃.tickets_eq_nil
    -- the tickets used so far are the old ones and at most that of `e`
    have fresh₃ : ∀ t ∈ rest.filterMap fun e => e.2.ticket?,
        t ∉ History.tickets (h ++ s₁ ++ s₂ ++ s₃) := by
      intro t ht hmem
      simp only [History.tickets_append, ht₁, ht₃, List.append_nil, List.mem_append] at hmem
      rcases hmem with hold | hnew
      · refine fresh t ?_ hold
        rw [List.filterMap_cons]
        split
        · exact ht
        · exact List.mem_cons_of_mem _ ht
      · rw [List.filterMap_cons, ht₂ t hnew] at new
        exact (List.nodup_cons.mp new).1 ht
    have new₃ : (rest.filterMap fun e => e.2.ticket?).Nodup := by
      rw [List.filterMap_cons] at new
      split at new
      · exact new
      · exact (List.nodup_cons.mp new).2
    obtain ⟨s₄, run₄⟩ := ih run₃ new₃ fresh₃
    refine ⟨s₁ ++ s₂ ++ s₃ ++ s₄, ?_⟩
    simp only [List.append_assoc] at run₄ ⊢
    exact run₄

/-! ### A rehearsal -/

namespace Rehearsal

/-- A broker that takes messages, but refuses the first call. -/
def assignment : Assignment Scripted.Broker where
  settings := .default
  connector := Scripted.connector "nats" "rehearsal"
  around := .ofChance fun _ => 0

/-- Two places. -/
def queue : Queue Log := ⟨2, [], [], [], true⟩

/-- A dispatcher that was not started. -/
def dispatcher : Dispatcher Scripted.Broker :=
  .new (.new [] [.failure 0 (.connection "down")]) queue .counted

/-- Three producers bring logs, the third of which waits; the first log is refused once and then
taken, and the call of the second one is on its way. -/
def moves : List Move :=
  [.submit 0 true default, .submit 1 true default, .submit 2 true default, .start,
    .proceed, .proceed, .proceed, .proceed, .proceed, .wait 200000, .proceed, .proceed, .proceed,
    .proceed, .proceed]

/-- What is seen of it, and what comes of it. -/
def outcome : List Sight × Dispatcher Scripted.Broker :=
  play assignment dispatcher moves

theorem capacity : Queue.new? 2 = some queue := rfl

theorem run : Run assignment (.new (.new [] [.failure 0 (.connection "down")]) queue .counted)
    outcome.1 outcome.2 :=
  run_play ..

end Rehearsal

end Dispatcher

end AuditRelay
