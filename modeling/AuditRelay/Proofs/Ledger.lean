import AuditRelay.Broker.Memory
import AuditRelay.Proofs.Calls

/-!
# The count of what happened

A worker counts the messages that the broker has taken and the calls that have failed. Whoever
makes the calls, a dispatcher or publishers that come one after another, the counts are those of the
calls: `Balance` says so, and that every call is taken, has failed, waits for its answer or was
given up.

* `Deal` says everything that one step can do between a worker and the broker. A `Dealer` is a
  system all of whose steps are such deals, so what is proved of `Deal` holds of every run.
* `Kept` is about a broker in memory, which counts for itself.
* `Dealer.Prompt` are the runs in which an answer that comes at once is noticed at once, as it is
  when the broker answers within the call.
-/

namespace AuditRelay

open History

/-! ### What is seen of the dealings with a broker -/

/-- Whether a sight is about a call to the broker. -/
def Sight.isDealing : Sight → Bool
  | .sent _ => true
  | .answered _ => true
  | .givenUp => true
  | _ => false

/-- Whether a call is given up. -/
def Sight.isGivenUp : Sight → Bool
  | .givenUp => true
  | _ => false

/-- Nothing is seen of a call. -/
def Quiet (seen : List Sight) : Prop := ∀ s ∈ seen, s.isDealing = false

namespace History

/-- The number of calls that were given up. -/
def abandoned (h : List Sight) : Nat := h.countP (·.isGivenUp)

theorem abandoned_append (h h' : List Sight) : abandoned (h ++ h') = abandoned h + abandoned h' :=
  List.countP_append

end History

section Quiet

variable {h seen seen' : List Sight}

theorem Quiet.nil : Quiet [] := fun _ hs => absurd hs List.not_mem_nil

theorem Quiet.cons {s : Sight} (hs : s.isDealing = false) (quiet : Quiet seen) :
    Quiet (s :: seen) := by
  intro s' hs'
  rcases List.mem_cons.mp hs' with rfl | hs'
  · exact hs
  · exact quiet s' hs'

theorem Quiet.calls_eq (quiet : Quiet seen) : calls (h ++ seen) = calls h := by
  apply calls_append_of_silent
  intro s hs cs
  have := quiet s hs
  cases s with
  | sent m => exact absurd this (by simp [Sight.isDealing])
  | answered r => exact absurd this (by simp [Sight.isDealing])
  | _ => rfl

theorem Quiet.abandoned_eq (quiet : Quiet seen) : abandoned seen = 0 := by
  apply List.countP_eq_zero.mpr
  intro s hs
  have := quiet s hs
  cases s with
  | givenUp => exact absurd this (by simp [Sight.isDealing])
  | _ => simp [Sight.isGivenUp]

theorem Queue.quiet_served (q : Queue Log) : Quiet q.served := by
  intro s hs
  rcases Queue.mem_served hs with ⟨t, rfl⟩ | ⟨t, l, rfl⟩
  · rfl
  · rfl

theorem Dispatcher.quiet_dismissed {β : Type} (d : Dispatcher β) : Quiet d.dismissed := by
  intro s hs
  obtain ⟨t, rfl⟩ := mem_dismissed hs
  rfl

end Quiet

/-- Whether a call was not answered. -/
def Call.isOpen (c : Call) : Bool := c.outcome.isNone

/-- A call is taken, has failed or was not answered. -/
theorem length_calls (cs : List Call) :
    cs.length = cs.countP (·.isAcked) + cs.countP (·.isRefused) + cs.countP (·.isOpen) := by
  induction cs with
  | nil => rfl
  | cons c rest ih =>
    obtain ⟨m, outcome⟩ := c
    rw [List.length_cons, ih]
    simp only [List.countP_cons]
    -- each call is of one of the three kinds
    rcases outcome with _ | _ | _ <;> simp [Call.isAcked, Call.isRefused, Call.isOpen] <;> omega

/-! ### Deals -/

variable {β : Type}

/-- **What a step can do** between a worker and the broker, where `reply?` is the reply to the call
that is not answered, if there is one. -/
inductive Deal (uses : Connector β → Prop) (w : Worker β) :
    (reply? : Option (Reply Nat)) → List Sight → Option (Reply Nat) → Worker β → Prop where
  /-- The step is about something else. -/
  | aside {reply? : Option (Reply Nat)} {seen : List Sight} {w' : Worker β} (quiet : Quiet seen)
      (stats : w'.stats = w.stats) (sends : w'.sends = w.sends) (broker : w'.broker = w.broker) :
      Deal uses w reply? seen reply? w'
  /-- An attempt to connect. -/
  | dialed {reply? : Option (Reply Nat)} {c : Connector β} {w' : Worker β} (known : uses c)
      (stats : w'.stats = w.stats) (sends : w'.sends = w.sends)
      (broker : w'.broker = (c.connect w.broker).2) : Deal uses w reply? [] reply? w'
  | sent {c : Connector β} {m : Message} {w' : Worker β} (known : uses c)
      (stats : w'.stats = w.stats) (sends : w'.sends = (w.now, m) :: w.sends)
      (broker : w'.broker = (c.send m w.broker).2) :
      Deal uses w none [.sent m] (some (c.send m w.broker).1) w'
  | acknowledged {reply : Reply Nat} {n : Nat} {w' : Worker β} (answer : reply.answer = .ok n)
      (stats : w'.stats = { w.stats with published := w.stats.published + 1 })
      (sends : w'.sends = w.sends) (broker : w'.broker = w.broker) :
      Deal uses w (some reply) [.answered (.ok n)] none w'
  | refused {reply : Reply Nat} {e : Failure} {w' : Worker β} (answer : reply.answer = .error e)
      (stats : w'.stats = { w.stats with retries := w.stats.retries + 1 })
      (sends : w'.sends = w.sends) (broker : w'.broker = w.broker) :
      Deal uses w (some reply) [.answered (.error e)] none w'
  /-- The call is given up because the worker was told to. -/
  | givenUp {reply : Reply Nat} {seen : List Sight} {w' : Worker β} (quiet : Quiet seen)
      (cancelled : w.cancelled = true) (stats : w'.stats = w.stats) (sends : w'.sends = w.sends)
      (broker : w'.broker = w.broker) : Deal uses w (some reply) (.givenUp :: seen) none w'

/-- When an answer is seen, no call is open any more. -/
theorem Deal.closed_of_answered {uses : Connector β → Prop} {w w' : Worker β}
    {reply? reply?' : Option (Reply Nat)} {seen : List Sight} {r : Except Failure Nat}
    (deal : Deal uses w reply? seen reply?' w') (answered : seen = [.answered r]) :
    reply?' = none := by
  cases deal with
  | aside quiet =>
    have := quiet (.answered r) (by rw [answered]; exact List.mem_cons_self)
    exact absurd this (by simp [Sight.isDealing])
  | dialed => exact absurd answered (by simp)
  | sent => exact absurd answered (by simp)
  | acknowledged => rfl
  | refused => rfl
  | givenUp => rfl

/-- A step gives up one call at most, and only if the worker was told to. -/
theorem Deal.abandoned_le {uses : Connector β → Prop} {w w' : Worker β}
    {reply? reply?' : Option (Reply Nat)} {seen : List Sight}
    (deal : Deal uses w reply? seen reply?' w') :
    abandoned seen = 0 ∨ abandoned seen = 1 ∧ w.cancelled = true ∧ reply?.isSome ∧
      reply?' = none := by
  cases deal with
  | aside quiet => exact Or.inl quiet.abandoned_eq
  | dialed => exact Or.inl rfl
  | sent => exact Or.inl rfl
  | acknowledged => exact Or.inl rfl
  | refused => exact Or.inl rfl
  | givenUp quiet cancelled =>
    refine Or.inr ⟨?_, cancelled, rfl, rfl⟩
    rw [← List.singleton_append, abandoned_append, quiet.abandoned_eq]
    rfl

/-- The number of calls that wait for their answers. -/
def inFlight : Option (Reply Nat) → Nat
  | some _ => 1
  | none => 0

/-- **The counts are those of the calls.** -/
structure Balance (h : List Sight) (reply? : Option (Reply Nat)) (w : Worker β) : Prop where
  published : w.stats.published = (calls h).countP (·.isAcked)
  retries : w.stats.retries = (calls h).countP (·.isRefused)
  deadLettered : w.stats.deadLettered = 0
  dropped : w.stats.dropped = 0
  sends : w.sends.reverse.map (·.2) = (calls h).map (·.message)
  isOpen : (calls h).countP (·.isOpen) = inFlight reply? + abandoned h
  last : reply?.isSome → ∃ cs m, calls h = cs ++ [⟨m, none⟩]

section Balance

variable {uses : Connector β → Prop} {h seen : List Sight} {w w' : Worker β}
  {reply? reply?' : Option (Reply Nat)}

theorem Balance.begin (stats : w.stats = .zero) (sends : w.sends = []) : Balance [] none w where
  published := by rw [stats]; rfl
  retries := by rw [stats]; rfl
  deadLettered := by rw [stats]; rfl
  dropped := by rw [stats]; rfl
  sends := by rw [sends]; rfl
  isOpen := rfl
  last := fun h => absurd h Bool.noConfusion

/-- The calls stay as they are. -/
theorem Balance.aside (hb : Balance h reply? w) (same : calls (h ++ seen) = calls h)
    (none : abandoned seen = 0) (stats : w'.stats = w.stats) (sends : w'.sends = w.sends) :
    Balance (h ++ seen) reply? w' where
  published := by rw [stats, same]; exact hb.published
  retries := by rw [stats, same]; exact hb.retries
  deadLettered := by rw [stats]; exact hb.deadLettered
  dropped := by rw [stats]; exact hb.dropped
  sends := by rw [sends, same]; exact hb.sends
  isOpen := by rw [same, abandoned_append, none]; exact hb.isOpen
  last := by rw [same]; exact hb.last

theorem Balance.sent (hb : Balance h none w) {m : Message} (reply : Reply Nat)
    (stats : w'.stats = w.stats) (sends : w'.sends = (w.now, m) :: w.sends) :
    Balance (h ++ [.sent m]) (some reply) w' := by
  have hcalls := calls_append_sent h m
  refine ⟨?_, ?_, ?_, ?_, ?_, ?_, fun _ => ⟨calls h, m, hcalls⟩⟩
  · rw [stats, hcalls, List.countP_append]
    exact hb.published
  · rw [stats, hcalls, List.countP_append]
    exact hb.retries
  · rw [stats]
    exact hb.deadLettered
  · rw [stats]
    exact hb.dropped
  · rw [sends, hcalls, List.reverse_cons, List.map_append, hb.sends, List.map_append]
    rfl
  · rw [hcalls, List.countP_append, hb.isOpen, abandoned_append]
    show 0 + abandoned h + 1 = 1 + (abandoned h + 0)
    omega

/-- The call that was open is answered. -/
theorem Balance.answered {reply : Reply Nat} (hb : Balance h (some reply) w)
    (r : Except Failure Nat)
    (stats : w'.stats = { w.stats with
      published := w.stats.published + if r.isOk then 1 else 0
      retries := w.stats.retries + if r.isOk then 0 else 1 })
    (sends : w'.sends = w.sends) : Balance (h ++ [.answered r]) none w' := by
  obtain ⟨cs, m, hcs⟩ := hb.last rfl
  have hcalls := calls_append_answered hcs r
  have published := hb.published
  have retries := hb.retries
  have isOpen := hb.isOpen
  rw [hcs, List.countP_append] at published retries isOpen
  refine ⟨?_, ?_, ?_, ?_, ?_, ?_, fun h => absurd h Bool.noConfusion⟩
  · rw [stats, hcalls, List.countP_append]
    show w.stats.published + _ = _
    rw [published]
    cases r <;> rfl
  · rw [stats, hcalls, List.countP_append]
    show w.stats.retries + _ = _
    rw [retries]
    cases r <;> rfl
  · rw [stats]
    exact hb.deadLettered
  · rw [stats]
    exact hb.dropped
  · rw [sends, hb.sends, hcs, hcalls, List.map_append, List.map_append]
    rfl
  · -- one call less is open, and none was given up
    rw [hcalls, List.countP_append, abandoned_append]
    have one : [(⟨m, none⟩ : Call)].countP (·.isOpen) = 1 := rfl
    have none : [(⟨m, some r⟩ : Call)].countP (·.isOpen) = 0 := rfl
    rw [one] at isOpen
    rw [none]
    show _ = 0 + (abandoned h + 0)
    have : inFlight (some reply) = 1 := rfl
    omega

theorem Balance.givenUp {reply : Reply Nat} (hb : Balance h (some reply) w) (quiet : Quiet seen)
    (stats : w'.stats = w.stats) (sends : w'.sends = w.sends) :
    Balance (h ++ .givenUp :: seen) none w' := by
  have same : calls (h ++ .givenUp :: seen) = calls h := by
    rw [← List.singleton_append, ← List.append_assoc, quiet.calls_eq]
    exact calls_append_of_silent (by simp [note])
  have one : abandoned (.givenUp :: seen) = 1 := by
    rw [← List.singleton_append, abandoned_append, quiet.abandoned_eq]
    rfl
  refine ⟨?_, ?_, ?_, ?_, ?_, ?_, fun h => absurd h Bool.noConfusion⟩
  · rw [stats, same]
    exact hb.published
  · rw [stats, same]
    exact hb.retries
  · rw [stats]
    exact hb.deadLettered
  · rw [stats]
    exact hb.dropped
  · rw [sends, same]
    exact hb.sends
  · rw [same, abandoned_append, one, hb.isOpen]
    show 1 + abandoned h = 0 + (abandoned h + 1)
    omega

/-- **Every deal keeps the balance.** -/
theorem Balance.deal (hb : Balance h reply? w) (deal : Deal uses w reply? seen reply?' w') :
    Balance (h ++ seen) reply?' w' := by
  cases deal with
  | aside quiet stats sends broker =>
    exact hb.aside quiet.calls_eq quiet.abandoned_eq stats sends
  | dialed known stats sends broker =>
    exact hb.aside Quiet.nil.calls_eq Quiet.nil.abandoned_eq stats sends
  | sent known stats sends broker => exact hb.sent _ stats sends
  | acknowledged answer stats sends broker => exact hb.answered _ stats sends
  | refused answer stats sends broker => exact hb.answered _ stats sends
  | givenUp quiet cancelled stats sends broker => exact hb.givenUp quiet stats sends

/-- **Every call is accounted for.** -/
theorem Balance.length_sends (hb : Balance h reply? w) :
    w.sends.length
      = w.stats.published + w.stats.retries + inFlight reply? + abandoned h := by
  have hlength := congrArg List.length hb.sends
  rw [List.length_map, List.length_reverse, List.length_map, length_calls, hb.isOpen,
    ← hb.published, ← hb.retries] at hlength
  omega

/-- **Conservation of the counts**: what was sent is taken, has failed, is on its way or was given
up. -/
structure Conserved (h : List Sight) (reply? : Option (Reply Nat)) (w : Worker β) : Prop where
  published : w.stats.published = (calls h).countP (·.isAcked)
  retries : w.stats.retries = (calls h).countP (·.isRefused)
  deadLettered : w.stats.deadLettered = 0
  dropped : w.stats.dropped = 0
  sends : w.sends.length
    = w.stats.published + w.stats.retries + inFlight reply? + abandoned h
  /-- The calls that were not answered are those that were given up, and one more at most. -/
  unanswered : (calls h).countP (·.isOpen) = abandoned h + inFlight reply? ∧ inFlight reply? ≤ 1

theorem Balance.conserved (hb : Balance h reply? w) : Conserved h reply? w where
  published := hb.published
  retries := hb.retries
  deadLettered := hb.deadLettered
  dropped := hb.dropped
  sends := hb.length_sends
  unanswered := by
    refine ⟨hb.isOpen.trans (Nat.add_comm ..), ?_⟩
    cases reply? <;> simp [inFlight]

end Balance

/-! ### A broker in memory -/

/-- A connector to a broker in memory that is found in the state: a call stores the message, or
fails if it is to fail, and the answer comes at once. Before each call the broker may be told anew
how many calls are to fail. -/
structure Connector.Stores (c : Connector β) (view : β → Memory.Broker) : Prop where
  connect : ∀ b, view (c.connect b).2 = view b
  delay : ∀ m b, (c.send m b).1.delay = some 0
  send : ∀ m b, ∃ n, ((view b).failNext n).send m = ((c.send m b).1.answer, view (c.send m b).2)

/-- The connector of a site stores in the broker of the site. -/
theorem Memory.stores_connectorAs (transport : String) :
    (Memory.connectorAs transport).Stores Memory.Site.broker where
  connect _ := rfl
  delay _ _ := rfl
  send _ s := ⟨s.broker.failing, rfl⟩

/-- A call is counted, and a message is stored unless the call fails. -/
theorem Memory.Broker.send_counts (m : Message) (b : Memory.Broker) :
    (b.send m).2.attempts = b.attempts + 1 ∧
      (b.send m).2.size = b.size + if (b.send m).1.isOk then 1 else 0 := by
  unfold Memory.Broker.send
  split
  · exact ⟨rfl, rfl⟩
  · exact ⟨rfl, rfl⟩

/-- The number of messages that were stored and whose answers were not noticed yet. -/
def storedFor : Option (Reply Nat) → Nat
  | some reply => if reply.answer.isOk then 1 else 0
  | none => 0

/-- **What the broker counts.** A message is stored for each call that it has answered with success;
the worker does not learn of those that it gives up. -/
structure Kept (view : β → Memory.Broker) (h : List Sight) (reply? : Option (Reply Nat))
    (w : Worker β) : Prop where
  attempts : (view w.broker).attempts = w.sends.length
  size : ∃ lost, lost ≤ abandoned h ∧
    (view w.broker).size = w.stats.published + lost + storedFor reply?
  instant : ∀ reply, reply? = some reply → reply.delay = some 0

/-- **Every deal keeps what the broker counts.** -/
theorem Kept.deal {view : β → Memory.Broker} {uses : Connector β → Prop} {h seen : List Sight}
    {w w' : Worker β} {reply? reply?' : Option (Reply Nat)}
    (stores : ∀ c, uses c → c.Stores view) (hk : Kept view h reply? w)
    (deal : Deal uses w reply? seen reply?' w') : Kept view (h ++ seen) reply?' w' := by
  obtain ⟨attempts, ⟨lost, few, size⟩, instant⟩ := hk
  cases deal with
  | aside quiet stats sends broker =>
    refine ⟨by rw [broker, sends, attempts], ⟨lost, ?_, by rw [broker, stats, size]⟩, instant⟩
    exact Nat.le_trans few (by rw [abandoned_append]; exact Nat.le_add_right ..)
  | @dialed _ c _ known stats sends broker =>
    have same := (stores c known).connect w.broker
    refine ⟨by rw [broker, same, sends, attempts], ⟨lost, ?_, ?_⟩, instant⟩
    · rwa [List.append_nil]
    · rw [broker, same, stats, size]
  | @sent c m _ known stats sends broker =>
    obtain ⟨n, hsend⟩ := (stores c known).send m w.broker
    obtain ⟨counted, stored⟩ := Memory.Broker.send_counts m ((view w.broker).failNext n)
    rw [hsend] at counted stored
    refine ⟨?_, ⟨lost, ?_, ?_⟩, ?_⟩
    · rw [broker, sends, List.length_cons, ← attempts]
      exact counted
    · rw [abandoned_append]
      exact Nat.le_trans few (Nat.le_add_right ..)
    · rw [broker, stats]
      show (view (c.send m w.broker).2).size
        = w.stats.published + lost + if (c.send m w.broker).1.answer.isOk then 1 else 0
      rw [stored]
      have size : (view w.broker).size = w.stats.published + lost + 0 := size
      exact congrArg (· + _) size
    · intro reply hreply
      obtain rfl := Option.some.inj hreply
      exact (stores c known).delay m w.broker
  | @acknowledged reply n _ answer stats sends broker =>
    refine ⟨by rw [broker, sends, attempts], ⟨lost, ?_, ?_⟩, by simp⟩
    · rw [abandoned_append]
      exact Nat.le_trans few (Nat.le_add_right ..)
    · rw [broker, stats, size]
      have one : storedFor (some reply) = 1 := by rw [storedFor, answer]; rfl
      rw [one]
      show w.stats.published + lost + 1 = w.stats.published + 1 + lost + 0
      omega
  | @refused reply e _ answer stats sends broker =>
    refine ⟨by rw [broker, sends, attempts], ⟨lost, ?_, ?_⟩, by simp⟩
    · rw [abandoned_append]
      exact Nat.le_trans few (Nat.le_add_right ..)
    · rw [broker, stats, size]
      have zero : storedFor (some reply) = 0 := by rw [storedFor, answer]; rfl
      rw [zero]
      rfl
  | @givenUp reply seen _ quiet cancelled stats sends broker =>
    refine ⟨by rw [broker, sends, attempts], ⟨lost + storedFor (some reply), ?_, ?_⟩, by simp⟩
    · -- a call more was given up, and its message may have been stored
      have one : storedFor (some reply) ≤ 1 := by
        rw [storedFor]
        split <;> omega
      have more : abandoned (.givenUp :: seen) = 1 + abandoned seen := by
        rw [← List.singleton_append, abandoned_append]
        rfl
      rw [abandoned_append, more]
      omega
    · rw [broker, stats, size]
      show _ = w.stats.published + (lost + storedFor (some reply)) + 0
      omega

/-! ### Systems that deal with a broker -/

/-- **A system that deals with a broker** by the connectors that it uses. -/
structure Dealer (σ μ β : Type) where
  uses : Connector β → Prop
  worker : σ → Worker β
  /-- The reply to the call that is not answered, if there is one. -/
  reply? : σ → Option (Reply Nat)
  /-- Whether a move may be made after a history. -/
  proper : List Sight → μ → Prop
  /-- What is seen of a move, and what comes of it. -/
  step? : σ → μ → Option (List Sight × σ)
  deal : ∀ {h s m seen s'}, proper h m → step? s m = some (seen, s') →
    Deal uses (worker s) (reply? s) seen (reply? s') (worker s')

namespace Dealer

variable {σ μ : Type} {D : Dealer σ μ β} {s₀ s : σ} {h : List Sight}

/-- Moves that lead from one state to another, and what is seen of them. -/
inductive Run (D : Dealer σ μ β) (s₀ : σ) : List Sight → σ → Prop where
  | begin : Run D s₀ [] s₀
  | move {h seen : List Sight} {m : μ} {s s' : σ} (run : Run D s₀ h s) (proper : D.proper h m)
      (made : D.step? s m = some (seen, s')) : Run D s₀ (h ++ seen) s'

/-- Whether there is an answer that has come at once. -/
def Due (D : Dealer σ μ β) (s : σ) : Prop :=
  ∃ reply, D.reply? s = some reply ∧ reply.delay = some 0

/-- **Runs in which an answer that comes at once is noticed at once**: nothing happens between the
call and its answer. -/
inductive Prompt (D : Dealer σ μ β) (s₀ : σ) : List Sight → σ → Prop where
  | begin : Prompt D s₀ [] s₀
  /-- A move after which no such answer is there. -/
  | move {h seen : List Sight} {m : μ} {s s' : σ} (run : Prompt D s₀ h s) (proper : D.proper h m)
      (made : D.step? s m = some (seen, s')) (settled : ¬ D.Due s') : Prompt D s₀ (h ++ seen) s'
  /-- A call and its answer. -/
  | exchange {h seen : List Sight} {m m' : μ} {s s' s'' : σ} {reply : Reply Nat}
      (run : Prompt D s₀ h s) (proper : D.proper h m) (made : D.step? s m = some (seen, s'))
      (called : D.reply? s' = some reply) (atOnce : reply.delay = some 0)
      (proper' : D.proper (h ++ seen) m')
      (noticed : D.step? s' m' = some ([.answered reply.answer], s'')) :
      Prompt D s₀ (h ++ seen ++ [.answered reply.answer]) s''

theorem Prompt.run (prompt : D.Prompt s₀ h s) : D.Run s₀ h s := by
  induction prompt with
  | begin => exact .begin
  | move _ proper made _ ih => exact ih.move proper made
  | exchange _ proper made _ _ proper' noticed ih =>
    exact (ih.move proper made).move proper' noticed

/-- Nothing was counted, and no call was made. -/
structure Fresh (D : Dealer σ μ β) (s : σ) : Prop where
  stats : (D.worker s).stats = .zero
  sends : (D.worker s).sends = []
  reply? : D.reply? s = none

/-- **The balance after any run.** -/
theorem Run.balance (fresh : D.Fresh s₀) (run : D.Run s₀ h s) :
    Balance h (D.reply? s) (D.worker s) := by
  induction run with
  | begin =>
    rw [fresh.reply?]
    exact .begin fresh.stats fresh.sends
  | move _ proper made ih => exact ih.deal (D.deal proper made)

/-- **What the broker counts after any run.** -/
theorem Run.kept {view : β → Memory.Broker} (fresh : D.Fresh s₀)
    (stores : ∀ c, D.uses c → c.Stores view) (unused : view (D.worker s₀).broker = .empty)
    (run : D.Run s₀ h s) : Kept view h (D.reply? s) (D.worker s) := by
  induction run with
  | begin =>
    refine ⟨by rw [unused, fresh.sends]; rfl, ⟨0, Nat.le_refl _, ?_⟩, ?_⟩
    · rw [unused, fresh.stats, fresh.reply?]
      rfl
    · rw [fresh.reply?]
      exact fun _ hreply => absurd hreply.symm (Option.some_ne_none _)
  | move _ proper made ih => exact ih.deal stores (D.deal proper made)

/-- When answers come at once and are noticed at once, no call is open and none is given up. -/
theorem Prompt.settled {view : β → Memory.Broker} (fresh : D.Fresh s₀)
    (stores : ∀ c, D.uses c → c.Stores view) (unused : view (D.worker s₀).broker = .empty)
    (prompt : D.Prompt s₀ h s) : D.reply? s = none ∧ abandoned h = 0 := by
  induction prompt with
  | begin => exact ⟨fresh.reply?, rfl⟩
  | @move h seen m s s' run proper made settled ih =>
    obtain ⟨free, none⟩ := ih
    have after : D.Run s₀ (h ++ seen) s' := run.run.move proper made
    have kept := after.kept fresh stores unused
    -- an open call would have its answer
    have free' : D.reply? s' = Option.none := by
      cases hreply : D.reply? s' with
      | none => rfl
      | some reply => exact absurd ⟨reply, hreply, kept.instant reply hreply⟩ settled
    have deal := D.deal proper made
    rw [free, free'] at deal
    refine ⟨free', ?_⟩
    rw [abandoned_append, none]
    cases deal with
    | aside quiet stats sends broker => rw [quiet.abandoned_eq]
    | dialed known stats sends broker => rfl
  | @exchange h seen m m' s s' s'' reply run proper made called atOnce proper' noticed ih =>
    obtain ⟨free, none⟩ := ih
    have first := D.deal proper made
    have second := D.deal proper' noticed
    rw [free, called] at first
    rw [called] at second
    -- the first of the two moves is a call, and the second one is its answer
    cases first with
    | sent known stats sends broker =>
      rw [abandoned_append, abandoned_append, none]
      exact ⟨second.closed_of_answered rfl, rfl⟩

/-- **Everything that was sent is stored or has failed**, when the broker is in memory and nobody
else sends to it. -/
theorem Prompt.exact {view : β → Memory.Broker} (fresh : D.Fresh s₀)
    (stores : ∀ c, D.uses c → c.Stores view) (unused : view (D.worker s₀).broker = .empty)
    (prompt : D.Prompt s₀ h s) :
    (view (D.worker s).broker).size = (D.worker s).stats.published ∧
      (view (D.worker s).broker).attempts
        = (D.worker s).stats.published + (D.worker s).stats.retries := by
  obtain ⟨free, none⟩ := prompt.settled fresh stores unused
  have balance := prompt.run.balance fresh
  obtain ⟨attempts, ⟨lost, few, size⟩, -⟩ := prompt.run.kept fresh stores unused
  have all := balance.length_sends
  rw [free, none] at all
  rw [none] at few
  rw [free] at size
  constructor
  · have : storedFor Option.none = 0 := rfl
    omega
  · have : inFlight Option.none = 0 := rfl
    omega

end Dealer

end AuditRelay
