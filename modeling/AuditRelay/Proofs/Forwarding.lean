import AuditRelay.Proofs.Backpressure
import AuditRelay.Proofs.Drain

/-!
# What is sent, and when

The dispatcher sends one message after the other, and none before its turn: whenever a call begins,
the messages that the broker has acknowledged are those of all logs that were accepted before the
one that is sent (`Run.sent_in_turn`). A dispatcher that was not started has sent nothing
(`Run.calls_eq_nil`).

It also comes to its turn. `Run.catches_up` is about a broker that can be relied on: left alone for
long enough, the dispatcher has sent all that was accepted so far, and everything is acknowledged.
Producers may still be there and bring more, so this is not about the end of the dispatcher as
`Finishing.ends` is; `Clockwork.comes_to` is the argument about clocks for it.
-/

namespace AuditRelay

open History

/-! ### A clock that comes to something -/

namespace Clockwork

variable {σ : Type} {c : Clockwork σ} {good final : σ → Prop} {count : σ → Nat}

/-- **A clock that comes to something.** If every move and every pause before it keeps what is good
and lowers the count, then the clock gets there, wherever it goes afterwards. -/
theorem comes_to
    (acts : ∀ s s', good s → ¬ final s → c.act? s = some s' → good s' ∧ count s' < count s)
    (waits : ∀ s, good s → ¬ final s → c.act? s = none →
      ∃ t, c.due? s = some t ∧ good (c.wait t s) ∧ count (c.wait t s) < count s)
    {s : σ} (start : good s) :
    ∃ n, good (c.runUntil none n s) ∧ final (c.runUntil none n s) := by
  generalize hcount : count s = k
  induction k using Nat.strongRecOn generalizing s with
  | ind k ih =>
    subst hcount
    by_cases hfinal : final s
    · exact ⟨0, start, hfinal⟩
    · cases hact : c.act? s with
      | some s' =>
        obtain ⟨hgood, hlt⟩ := acts s s' start hfinal hact
        obtain ⟨n, hn⟩ := ih _ hlt hgood rfl
        have hstep : c.runUntil none (n + 1) s = c.runUntil none n s' := by
          simp only [runUntil, hact]
        exact ⟨n + 1, hstep ▸ hn⟩
      | none =>
        obtain ⟨t, hdue, hgood, hlt⟩ := waits s start hfinal hact
        obtain ⟨n, hn⟩ := ih _ hlt hgood rfl
        have hstep : c.runUntil none (n + 1) s = c.runUntil none n (c.wait t s) := by
          simp only [runUntil, hact, hdue]
        exact ⟨n + 1, hstep ▸ hn⟩

end Clockwork

namespace Dispatcher

variable {β : Type} {a : Assignment β} {C : Nat} {ids : IdStream} {broker : β} {q : Queue Log}
  {h seen : List Sight} {d d' : Dispatcher β}

/-! ### Nothing out of turn -/

/-- A call begins only by a turn of the dispatcher, and nothing else is seen of it. -/
theorem Step.sent_of_mem (step : Step a h d seen d') {m : Message} (sent : .sent m ∈ seen) :
    seen = [.sent m] ∧ ∃ l made, d.stage = .publishing l m (.ready made) := by
  have served (q : Queue Log) : .sent m ∉ q.served := by
    intro mem
    rcases Queue.mem_served mem with ⟨t, heq⟩ | ⟨t, l, heq⟩ <;> cases heq
  have dismissed : .sent m ∉ d.dismissed := by
    intro mem
    obtain ⟨t, heq⟩ := mem_dismissed mem
    cases heq
  cases step with
  | drop stage => exact absurd sent dismissed
  | released request kept =>
    rcases List.mem_cons.mp sent with heq | mem
    · cases heq
    · exact absurd mem (served _)
  | turn turn =>
    cases turn with
    | took stage items => exact absurd sent (served _)
    | sent stage =>
      obtain rfl := Sight.sent.inj (List.mem_singleton.mp sent)
      exact ⟨rfl, _, _, stage⟩
    | _ => simp at sent
  | ending silent ending =>
    rcases List.mem_append.mp sent with mem | mem
    · rcases silent with rfl | rfl <;> simp at mem
    · exact absurd mem dismissed
  | _ => simp at sent

/-- **Whenever a call begins**, its message is the one that comes next. -/
theorem Run.next_of_sent (capacity : Queue.new? C = some q) (run : Run a (.new broker q ids) h d)
    {s₁ s₂ : List Sight} {m : Message} (split : h = s₁ ++ .sent m :: s₂) :
    acked s₁ ++ [m] <+: messages a ids h := by
  induction run generalizing s₁ s₂ with
  | begin => simp at split
  | @move h seen move d d' before proper made ih =>
    -- the call has begun before this move, or with it
    have hmove : ∀ as, s₁ = h ++ as → seen = as ++ .sent m :: s₂ →
        acked s₁ ++ [m] <+: messages a ids (h ++ seen) := by
      rintro as rfl hseen
      have mem : .sent m ∈ seen := hseen ▸ List.mem_append_right _ List.mem_cons_self
      obtain ⟨hsent, l, n, stage⟩ := (step_of_step? proper made).sent_of_mem mem
      obtain rfl : as = [] := by
        have hlength := congrArg List.length (hsent.symm.trans hseen)
        simp only [List.length_append, List.length_cons, List.length_nil] at hlength
        exact List.eq_nil_of_length_eq_zero (by omega)
      obtain ⟨done, rest, progress⟩ := before.progress capacity
      rw [List.append_nil]
      exact (progress.inHand stage).next.trans (messages_grow ..)
    rcases List.append_eq_append_iff.mp split with ⟨as, hs, hseen⟩ | ⟨bs, hh, hrest⟩
    · exact hmove as hs hseen
    · cases bs with
      | nil => exact hmove [] (by rw [hh, List.append_nil]; simp) (by simpa using hrest.symm)
      | cons s bs =>
        obtain ⟨rfl, -⟩ := List.cons.inj hrest
        exact (ih hh).trans (messages_grow ..)

/-- The message at a place belongs to the log at that place. -/
theorem getElem?_messages {i : Nat} {m : Message} (hm : (messages a ids h)[i]? = some m) :
    ∃ t l, (accepted h)[i]? = some (t, l) ∧ m = messageAt a ids i l := by
  rw [messages, messagesOf, List.getElem?_mapIdx, logs, List.getElem?_map] at hm
  cases hentry : (accepted h)[i]? with
  | none =>
    rw [hentry] at hm
    simp at hm
  | some entry =>
    rw [hentry] at hm
    exact ⟨entry.1, entry.2, rfl, (Option.some.inj hm).symm⟩

/-- **One message after the other.** Whenever a call begins, its message is that of an accepted log,
and the broker has acknowledged the messages of the logs accepted before it and no others. -/
theorem Run.sent_in_turn (capacity : Queue.new? C = some q)
    (run : Run a (.new broker q ids) h d) {s₁ s₂ : List Sight} {m : Message}
    (split : h = s₁ ++ .sent m :: s₂) :
    ∃ i t l, (accepted h)[i]? = some (t, l) ∧ m = messageAt a ids i l ∧
      acked s₁ = (messages a ids h).take i := by
  have next := run.next_of_sent capacity split
  have hm : (messages a ids h)[(acked s₁).length]? = some m := by
    obtain ⟨rest, hrest⟩ := next
    simp [← hrest]
  obtain ⟨t, l, hentry, hmessage⟩ := getElem?_messages hm
  refine ⟨_, t, l, hentry, hmessage, ?_⟩
  exact List.prefix_iff_eq_take.mp ((List.prefix_append ..).trans next)

/-- Nothing puts a dispatcher back to sleep. -/
theorem Step.dormant_of (step : Step a h d seen d') (dormant : d'.stage = .dormant) :
    d.stage = .dormant := by
  cases step with
  | drop stage => exact stage
  | turn turn => exact absurd dormant turn.started
  | ending silent ending =>
    cases ending with
    | unconnected => cases dormant
    | exhausted => cases dormant
    | resigned => cases dormant
  | start stage isOpen => exact stage
  | _ => exact dormant

/-- **A dispatcher that was not started has sent nothing.** -/
theorem Run.calls_eq_nil {d₀ : Dispatcher β} (run : Run a d₀ h d) (dormant : d.stage = .dormant) :
    calls h = [] := by
  refine run.keeps (P := fun h d => d.stage = .dormant → calls h = []) (fun _ => rfl) ?_ dormant
  intro h seen d d' ih step dormant
  rcases step.turn_or_silent with turn | silent
  · exact absurd dormant turn.started
  · exact silent.trans (ih (step.dormant_of dormant))

/-! ### Everything in its turn -/

/-- **A dispatcher that works on** after the history `h`, and nobody does anything but it. -/
structure Pursuing (a : Assignment β) (d₀ : Dispatcher β) (h : List Sight) (d : Dispatcher β) :
    Prop where
  run : ∃ seen, Own seen ∧ Run a d₀ (h ++ seen) d
  uncancelled : d.worker.cancelled = false
  running : d.Running

theorem length_accepted_le (h seen : List Sight) :
    (accepted h).length ≤ (accepted (h ++ seen)).length := by
  rw [accepted_append, List.length_append]
  exact Nat.le_add_right ..

/-- An idle dispatcher with nothing in its queue has had all logs acknowledged. -/
theorem Run.accepted_le_of_idle (capacity : Queue.new? C = some q)
    (run : Run a (.new broker q ids) h d) (stage : d.stage = .idle) (items : d.queue.items = []) :
    (accepted h).length ≤ d.worker.stats.published := by
  obtain ⟨done, rest, progress⟩ := run.progress capacity
  obtain ⟨-, htaken⟩ := progress.standing.resting_of (by simp [stage]) (by simp [stage])
  have isOpen := (run.receiving capacity).running ⟨by simp [stage], by simp [stage]⟩
  have hlength := (run.stock capacity).length_accepted isOpen
  rw [hlength, items, htaken, List.length_map, progress.published]
  exact Nat.le_of_eq (Nat.zero_add _)

/-- **The moves and pauses that are left** until `n` logs are acknowledged. -/
def distance (a : Assignment β) (n : Nat) (d : Dispatcher β) : Nat :=
  d.effort a + 6 * (n - d.taken)

theorem Pursuing.act {S : (connected : Bool) → β → Prop} (steady : a.connector.Steady S)
    (start : S false broker) (capacity : Queue.new? C = some q)
    (hp : Pursuing a (.new broker q ids) h d)
    (behind : ¬ (accepted h).length ≤ d.worker.stats.published)
    (act : (clockwork a).act? d = some d') :
    Pursuing a (.new broker q ids) h d' ∧
      d'.distance a (accepted h).length < d.distance a (accepted h).length := by
  obtain ⟨seen, own, run⟩ := hp.run
  obtain ⟨seen', own', run'⟩ := run.act act
  rw [List.append_assoc] at run'
  have more := length_accepted_le h seen
  have hproceeds : d.proceed? a = some d' := by
    have hact : (d.quit? a).or (d.proceed? a) = some d' := act
    rwa [quit?_eq_none hp.uncancelled, Option.none_or] at hact
  rcases turn_or_exhausted_of_proceed? hp.uncancelled hproceeds with
    turn | ⟨-, stage, drained, -⟩
  · refine ⟨⟨⟨_, own.append own', run'⟩, turn.frame.1.trans hp.uncancelled, turn.started,
      turn.running.2⟩, ?_⟩
    rw [distance, distance]
    rcases turn.effort_lt steady (run.steadfast steady start) with
      ⟨-, taken, hlt⟩ | ⟨raw, rest, stage, items, -, taken, heq⟩
    · rw [taken]
      omega
    -- a log that is taken was still missing, which pays for publishing it
    · obtain ⟨done, left, progress⟩ := run.progress capacity
      obtain ⟨-, count⟩ := progress.standing.resting_of (by simp [stage]) (by simp [stage])
      rw [List.length_map, ← progress.published] at count
      omega
  -- it ends only when nothing is missing
  · rw [Queue.drained, Bool.and_eq_true, Bool.and_eq_true, List.isEmpty_iff] at drained
    exact absurd (Nat.le_trans more (run.accepted_le_of_idle capacity stage drained.1.1)) behind

theorem Pursuing.pause {S : (connected : Bool) → β → Prop} (steady : a.connector.Steady S)
    (start : S false broker) (capacity : Queue.new? C = some q)
    (hp : Pursuing a (.new broker q ids) h d)
    (behind : ¬ (accepted h).length ≤ d.worker.stats.published)
    (blocked : (clockwork a).act? d = none) :
    ∃ t, (clockwork a).due? d = some t ∧
      Pursuing a (.new broker q ids) h ((clockwork a).wait t d) ∧
      ((clockwork a).wait t d).distance a (accepted h).length
        < d.distance a (accepted h).length := by
  obtain ⟨seen, own, run⟩ := hp.run
  have more := length_accepted_le h seen
  have hproceed : d.proceed? a = none := (Option.or_eq_none_iff.mp blocked).2
  -- an idle dispatcher that cannot go on has nothing in its queue, and so nothing is missing
  have busy : d.stage ≠ .idle := by
    intro idle
    have items : d.queue.items = [] := by
      cases hitems : d.queue.items with
      | nil => rfl
      | cons raw rest =>
        rw [proceed?, idle] at hproceed
        simp [take?, Queue.take?, hitems] at hproceed
    exact behind (Nat.le_trans more (run.accepted_le_of_idle capacity idle items))
  obtain ⟨moment, hdue, early⟩ :=
    (run.steadfast steady start).exists_due hproceed hp.running busy
  refine ⟨moment, hdue, ⟨⟨seen, own, run.wait moment⟩, hp.uncancelled, hp.running⟩, ?_⟩
  exact Nat.add_lt_add_right (effort_waitUntil_lt hdue early (Nat.le_refl _)) _

/-- **The dispatcher catches up.** If the broker can be relied on, then a dispatcher that runs and
was not told to give up has everything acknowledged in the end that was accepted so far, and it
needs nobody for that. -/
theorem Run.catches_up {S : (connected : Bool) → β → Prop} (steady : a.connector.Steady S)
    (start : S false broker) (capacity : Queue.new? C = some q)
    (run : Run a (.new broker q ids) h d) (uncancelled : d.worker.cancelled = false)
    (running : d.Running) :
    ∃ n seen, Own seen ∧
      Run a (.new broker q ids) (h ++ seen) ((clockwork a).runUntil none n d) ∧
      messages a ids h <+: acked (h ++ seen) := by
  have begin : Pursuing a (.new broker q ids) h d :=
    ⟨⟨[], .nil, by rw [List.append_nil]; exact run⟩, uncancelled, running⟩
  -- the two conditions of `Clockwork.comes_to`, with `Pursuing` as what is good
  have hacts : ∀ e e' : Dispatcher β, Pursuing a (.new broker q ids) h e →
      ¬ (accepted h).length ≤ e.worker.stats.published → (clockwork a).act? e = some e' →
      Pursuing a (.new broker q ids) h e' ∧
        e'.distance a (accepted h).length < e.distance a (accepted h).length :=
    fun e e' hp behind act => hp.act steady start capacity behind act
  have hwaits : ∀ e : Dispatcher β, Pursuing a (.new broker q ids) h e →
      ¬ (accepted h).length ≤ e.worker.stats.published → (clockwork a).act? e = none →
      ∃ t, (clockwork a).due? e = some t ∧
        Pursuing a (.new broker q ids) h ((clockwork a).wait t e) ∧
        ((clockwork a).wait t e).distance a (accepted h).length
          < e.distance a (accepted h).length :=
    fun e hp behind blocked => hp.pause steady start capacity behind blocked
  obtain ⟨n, hpursuing, hfinal⟩ := Clockwork.comes_to hacts hwaits begin
  obtain ⟨seen, own, run'⟩ := hpursuing.run
  obtain ⟨done, rest, progress⟩ := run'.progress capacity
  refine ⟨n, seen, own, run', ?_⟩
  -- as many messages are acknowledged as there are logs, and they are the first ones
  rw [progress.acked_eq]
  refine List.prefix_of_prefix_length_le (messages_grow ..) progress.inOrder ?_
  rw [messages, length_messagesOf, logs, List.length_map, List.length_map, ← progress.published]
  exact hfinal

end Dispatcher

end AuditRelay
