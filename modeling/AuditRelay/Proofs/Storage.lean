import AuditRelay.Proofs.InTurn
import AuditRelay.Proofs.Route

/-!
# Every message is stored once

Two loops send a message again and again: the client repeats a request that has failed, and the
dispatcher repeats the call when the client has given up. Copies of a message may be on their way
for a long time, and they may arrive when the dispatcher has long gone on. The stream holds every
acknowledged message once nevertheless, in the order of acceptance, and at most one message more,
the one that the dispatcher has in hand.

`Storage` is the invariant. What makes it hold is that every request carries a message that is
acknowledged or in hand (`Progress.mem_calls`), that a copy of an acknowledged message finds it in
the stream, and that the id of the message in hand is no other message's: so an acknowledgment for
it can only mean that the stream has taken it.
-/

namespace AuditRelay

open History

/-! ### Ids that are drawn -/

section Ids

variable {β : Type} {a : Assignment β} {ids : IdStream}

/-- The ids of messages are those that are drawn. -/
theorem map_id_messagesOf (ls : List Log) :
    (messagesOf a ids ls).map (·.id) = ids.drawMany ls.length := by
  rw [IdStream.drawMany, messagesOf]
  refine List.ext_getElem (by simp) fun i _ _ => ?_
  rw [List.getElem_map, List.getElem_mapIdx, List.getElem_map, List.getElem_range]
  rfl

/-- Messages for which different ids are drawn have different ids. -/
theorem nodup_ids {ls : List Log} {ms : List Message} {n : Nat}
    (distinct : (ids.drawMany n).Nodup) (le : ms.length ≤ n) (first : ms <+: messagesOf a ids ls) :
    (ms.map (·.id)).Nodup := by
  -- the ids of the first messages are the first ids
  have hfirst : ms.map (·.id) <+: ids.drawMany ls.length := by
    rw [← map_id_messagesOf (a := a)]
    exact first.map _
  have hprefix : ms.map (·.id) <+: ids.drawMany n := by
    refine List.prefix_of_prefix_length_le
      (hfirst.trans (ids.drawMany_prefix (Nat.le_max_left _ n)))
      (ids.drawMany_prefix (Nat.le_max_right ..)) ?_
    rw [List.length_map, IdStream.length_drawMany]
    exact le
  exact distinct.sublist hprefix.sublist

end Ids

/-! ### What is acknowledged -/

namespace History

theorem acked_of_calls {h h' : List Sight} (same : calls h' = calls h) : acked h' = acked h := by
  rw [acked, acked, same]

theorem acked_append_sent (h : List Sight) (m : Message) : acked (h ++ [.sent m]) = acked h := by
  rw [acked, acked, calls_append_sent, List.filter_append, List.map_append]
  exact List.append_nil _

/-- An acknowledgment makes the last message an acknowledged one. -/
theorem acked_append_answered {h : List Sight} {cs : List Call} {m : Message}
    (hc : calls h = cs ++ [⟨m, none⟩]) (r : Except Failure Nat) :
    acked (h ++ [.answered r]) = acked h ++ if r.isOk then [m] else [] := by
  rw [acked, acked, calls_append_answered hc, hc, List.filter_append, List.filter_append,
    List.map_append, List.map_append]
  -- only an acknowledgment adds a message
  cases r with
  | ok n => simp [Call.isAcked, Except.isOk, Except.toBool]
  | error e => simp [Call.isAcked, Except.isOk, Except.toBool]

end History

namespace Dispatcher

variable {β : Type} {a : Assignment β} {C : Nat} {ids : IdStream} {h seen : List Sight}
  {d d' : Dispatcher β}

/-- A log was taken for every message that is acknowledged. -/
theorem Progress.acked_le_taken {done : List Handover} {rest : List Call}
    (hp : Progress a ids h d done rest) : (acked h).length ≤ d.taken := by
  rw [hp.acked_eq]
  cases hp.standing with
  | resting stage count => omega
  | publishing stage count next attempts => omega
  | resigned stage cancelled count next attempts => omega

/-- Nobody else has the id of the message in hand. -/
theorem InHand.fresh {m : Message} (hand : InHand a ids h d m)
    (distinct : (ids.drawMany d.taken).Nodup) : m.id ∉ (acked h).map (·.id) := by
  have hnodup : ((acked h ++ [m]).map (·.id)).Nodup := by
    refine nodup_ids distinct (Nat.le_of_eq ?_) hand.next
    rw [hand.taken, List.length_append, List.length_singleton]
  rw [List.map_append] at hnodup
  intro hmem
  exact (List.nodup_append.mp hnodup).2.2 _ hmem _ (List.mem_singleton.mpr rfl) rfl

/-- A message stays in hand while nothing is acknowledged and no log is taken. -/
theorem InHand.still {m : Message} (hand : InHand a ids h d m)
    (silent : acked (h ++ seen) = acked h) (taken : d'.taken = d.taken) :
    InHand a ids (h ++ seen) d' m where
  next := by
    rw [silent]
    exact hand.next.trans (messages_grow ..)
  taken := by
    rw [silent, taken]
    exact hand.taken

/-- Who may have called the client: a dispatcher that waits for the answer, or one that has
ended. -/
inductive Awaits (d : Dispatcher β) (m : Message) : Prop where
  | asked {l : Log} {made since : Nat} {reply : Reply Nat}
    (stage : d.stage = .publishing l m (.asked made since reply)) : Awaits d m
  | ended {time : Nat} (stage : d.stage = .stopped time) : Awaits d m

/-- A dispatcher in another stage has not called. -/
theorem not_awaits
    (asked : ∀ l m made since reply, d.stage ≠ .publishing l m (.asked made since reply))
    (ended : ∀ time, d.stage ≠ .stopped time) (m : Message) : ¬ Awaits d m := by
  intro h
  cases h with
  | asked stage => exact asked _ _ _ _ _ stage
  | ended stage => exact ended _ stage

theorem Awaits.same {m : Message} (h : Awaits d m) (stage : d'.stage = d.stage) :
    Awaits d' m := by
  cases h with
  | asked hstage => exact .asked (stage.trans hstage)
  | ended hstage => exact .ended (stage.trans hstage)

end Dispatcher

/-! ### The invariant -/

namespace Route

open Dispatcher (Progress InHand Awaits Stock)

variable {β : Type} {a : Assignment β} {C : Nat} {ids : IdStream} {h seen : List Sight}
  {w w' : Route β}

/-- **What the client asks for and what the stream holds.** -/
structure Storage (a : Assignment β) (ids : IdStream) (h : List Sight) (w : Route β) : Prop where
  /-- The client has one call at most. -/
  single : w.client.callers.length ≤ 1
  awaited : ∀ m ∈ w.client.callers, Awaits w.dispatcher m ∧ m ∈ (calls h).map (·.message)
  requested : ∀ r ∈ w.client.requests, r.2 ∈ (calls h).map (·.message)
  stream : w.stream = acked h ∨
    ∃ m, InHand a ids h w.dispatcher m ∧ w.stream = acked h ++ [m]

theorem Storage.begin {broker : β} {q : Queue Log} (config : Nats.Config) :
    Storage a ids [] ⟨.new broker q ids, .new config, []⟩ where
  single := Nat.zero_le _
  awaited := fun _ hm => absurd hm List.not_mem_nil
  requested := fun _ hr => absurd hr List.not_mem_nil
  stream := Or.inl rfl

/-- A dispatcher that does not wait for an answer has not called. -/
theorem Storage.idle (hs : Storage a ids h w) (quiet : ∀ m, ¬ Awaits w.dispatcher m) :
    w.client.callers = [] :=
  List.eq_nil_iff_forall_not_mem.mpr fun m hm => quiet m (hs.awaited m hm).1

/-- Nothing happens between the dispatcher and its client. -/
theorem Storage.still {d : Dispatcher β} (hs : Storage a ids h w)
    (silent : calls (h ++ seen) = calls h)
    (awaits : ∀ m, Awaits w.dispatcher m → Awaits d m)
    (taken : ∀ m, InHand a ids h w.dispatcher m → d.taken = w.dispatcher.taken) :
    Storage a ids (h ++ seen) ⟨d, w.client, w.stream⟩ where
  single := hs.single
  awaited := by
    intro m hm
    rw [silent]
    exact ⟨awaits m (hs.awaited m hm).1, (hs.awaited m hm).2⟩
  requested := by
    rw [silent]
    exact hs.requested
  stream := by
    have hacked : acked (h ++ seen) = acked h := acked_of_calls silent
    rcases hs.stream with all | ⟨m, hand, more⟩
    · exact Or.inl (all.trans hacked.symm)
    · refine Or.inr ⟨m, hand.still hacked (taken m hand), ?_⟩
      rw [hacked]
      exact more

/-- The client makes requests for calls that have not returned, and nothing else. -/
theorem Storage.client (hs : Storage a ids h w) {m : Nats.Client.Move} {c : Nats.Client}
    (noCall : m.message? = none) (made : w.client.step? m = some c) :
    Storage a ids h ⟨w.dispatcher, c, w.stream⟩ := by
  obtain ⟨hcallers, hrequests⟩ := Nats.Client.step_of_step? made
  rw [noCall, Option.toList_none, List.append_nil] at hcallers hrequests
  refine ⟨Nat.le_trans hcallers.length_le hs.single,
    fun m hm => hs.awaited m (hcallers.subset hm), ?_, hs.stream⟩
  intro r hr
  -- a new request is for a call that has not returned, whose message was sent
  rcases hrequests r hr with hold | hnew
  · exact hs.requested r hold
  · exact (hs.awaited _ hnew).2

/-- **A request arrives.** A copy of an acknowledged message finds it, and so does a copy of the
message in hand, unless it is the first one. -/
theorem Storage.arrive (hs : Storage a ids h w) {done : List Handover} {rest : List Call}
    (hp : Progress a ids h w.dispatcher done rest)
    (distinct : (ids.drawMany w.dispatcher.taken).Nodup) {ticket : Nat} {m : Message}
    (requested : (ticket, m) ∈ w.client.requests) :
    Storage a ids h ⟨w.dispatcher, w.client, Nats.Stream.store w.stream m⟩ := by
  refine ⟨hs.single, hs.awaited, hs.requested, ?_⟩
  have hcopy : m ∈ w.stream → Nats.Stream.store w.stream m = acked h ∨
      ∃ m', InHand a ids h w.dispatcher m' ∧ Nats.Stream.store w.stream m = acked h ++ [m'] := by
    intro hm
    rw [Nats.Stream.store_of_mem hm]
    exact hs.stream
  obtain ⟨c, hc, rfl⟩ := List.mem_map.mp (hs.requested _ requested)
  -- every request has a message that is acknowledged or in hand
  rcases hp.mem_calls hc with hacked | hand
  · refine hcopy ?_
    rcases hs.stream with all | ⟨m', -, more⟩
    · rw [all]
      exact hacked
    · rw [more]
      exact List.mem_append_left _ hacked
  · rcases hs.stream with all | ⟨m', hand', more⟩
    · -- the message in hand arrives for the first time
      have hfresh : c.message.id ∉ w.stream.map (·.id) := by
        rw [all]
        exact hand.fresh distinct
      refine Or.inr ⟨c.message, hand, ?_⟩
      rw [Nats.Stream.store_of_new hfresh, all]
    · refine hcopy ?_
      rw [more, hand.unique hand']
      exact List.mem_append_right _ (List.mem_singleton.mpr rfl)

/-- **A call begins.** -/
theorem Storage.sent (hs : Storage a ids h w) {l : Log} {m : Message} {made : Nat}
    (stage : w.dispatcher.stage = .publishing l m (.ready made)) {d : Dispatcher β}
    (awaits : Awaits d m) (taken : d.taken = w.dispatcher.taken) {c : Nats.Client} {ticket : Nat}
    (called : w.client.step? (.call ticket m) = some c) :
    Storage a ids (h ++ [.sent m]) ⟨d, c, w.stream⟩ := by
  have hnobody : w.client.callers = [] :=
    hs.idle (Dispatcher.not_awaits (by simp [stage]) (by simp [stage]))
  -- so the call that begins is the only one
  obtain ⟨hcallers, hrequests⟩ := Nats.Client.step_of_step? called
  rw [hnobody] at hcallers hrequests
  have hacked : acked (h ++ [.sent m]) = acked h := acked_append_sent h m
  have hcalls : (calls (h ++ [.sent m])).map (·.message) = (calls h).map (·.message) ++ [m] := by
    rw [calls_append_sent, List.map_append]
    rfl
  have hlast : m ∈ (calls (h ++ [.sent m])).map (·.message) := by
    rw [hcalls]
    exact List.mem_append_right _ (List.mem_singleton.mpr rfl)
  refine ⟨hcallers.length_le, fun m' hm' => ?_, fun r hr => ?_, ?_⟩
  · obtain rfl : m' = m := List.mem_singleton.mp (hcallers.subset hm')
    exact ⟨awaits, hlast⟩
  · rcases hrequests r hr with hold | hnew
    · rw [hcalls]
      exact List.mem_append_left _ (hs.requested r hold)
    · rw [List.mem_singleton.mp hnew]
      exact hlast
  · rw [hacked]
    rcases hs.stream with all | ⟨m', hand, more⟩
    · exact Or.inl all
    · exact Or.inr ⟨m', hand.still hacked taken, more⟩

/-- **A call returns.** If the message is acknowledged, the stream has taken it: the id that the
stream holds is no other message's. -/
theorem Storage.answered (hs : Storage a ids h w) {done : List Handover} {rest : List Call}
    (hp : Progress a ids h w.dispatcher done rest)
    (distinct : (ids.drawMany w.dispatcher.taken).Nodup) {l : Log} {m : Message}
    {made since : Nat} {reply : Reply Nat}
    (stage : w.dispatcher.stage = .publishing l m (.asked made since reply)) {d : Dispatcher β}
    (taken : d.taken = w.dispatcher.taken) {c : Nats.Client} {r : Except Failure Nat}
    (returned : w.client.return? w.stream r = some c) :
    Storage a ids (h ++ [.answered r]) ⟨d, c, w.stream⟩ := by
  obtain ⟨m', hcallers, hnobody, hrequests, hheld⟩ :=
    Nats.Client.return_of_return? hs.single returned
  -- the call that returns is that of the message in hand
  obtain ⟨hawaits, hsent⟩ := hs.awaited m' (by rw [hcallers]; exact List.mem_singleton.mpr rfl)
  obtain rfl : m' = m := by
    cases hawaits with
    | asked hstage => exact (Stage.publishing.inj (stage.symm.trans hstage)).2.1.symm
    | ended hstage => exact absurd (stage.symm.trans hstage) (by simp)
  have hand : InHand a ids h w.dispatcher m' := hp.inHand stage
  obtain ⟨reasons, -, -, hcalls⟩ := hp.calls_of_asked stage
  have hmessages : (calls (h ++ [.answered r])).map (·.message) = (calls h).map (·.message) := by
    rw [calls_append_answered hcalls r, hcalls, map_message_snoc, map_message_snoc]
  have hacked := acked_append_answered hcalls r
  refine ⟨by rw [hnobody]; exact Nat.zero_le _, fun x hx => ?_, fun q hq => ?_, ?_⟩
  · rw [hnobody] at hx
    exact absurd hx List.not_mem_nil
  · rw [hmessages]
    rcases hrequests q hq with hold | hnew
    · exact hs.requested q hold
    · rw [hnew]
      exact hsent
  · rw [hacked]
    cases r with
    | error e =>
      -- nothing is acknowledged, whatever the stream has taken
      have hsame : acked (h ++ [.answered (.error e)]) = acked h :=
        hacked.trans (List.append_nil _)
      rcases hs.stream with all | ⟨x, hx, more⟩
      · exact Or.inl (all.trans (List.append_nil _).symm)
      · refine Or.inr ⟨x, hx.still hsame taken, ?_⟩
        exact more.trans (congrArg (· ++ [x]) (List.append_nil _).symm)
    -- the id is in the stream, and no acknowledged message has it
    | ok sequence =>
      refine Or.inl ?_
      rcases hs.stream with all | ⟨x, hx, more⟩
      · have hid : m'.id ∈ (acked h).map (·.id) := all ▸ hheld rfl
        exact absurd hid (hand.fresh distinct)
      · rw [more, hx.unique hand]
        rfl

/-! ### What does not concern the client -/

theorem follow_served (stream : List Message) (q : Queue Log) :
    ∀ s ∈ q.served, ∀ c, Nats.Client.follow? stream c s = some c := by
  intro s hs c
  rcases Queue.mem_served hs with ⟨t, rfl⟩ | ⟨t, l, rfl⟩
  · rfl
  · rfl

theorem follow_dismissed (stream : List Message) (d : Dispatcher β) :
    ∀ s ∈ d.dismissed, ∀ c, Nats.Client.follow? stream c s = some c := by
  intro s hs c
  obtain ⟨t, rfl⟩ := Dispatcher.mem_dismissed hs
  rfl

/-- What the client does when a dispatcher ends: a call that is given up is abandoned. -/
theorem follow_ending {stream : List Message} {c c' : Nats.Client} {before : List Sight}
    {d : Dispatcher β} (silent : before = [] ∨ before = [.givenUp])
    (follows : (before ++ d.dismissed).foldlM (Nats.Client.follow? stream) c = some c') :
    c' = c ∨ ∃ ticket, c.step? (.abandon ticket) = some c' := by
  have hdismissed : ∀ e : Nats.Client,
      d.dismissed.foldlM (Nats.Client.follow? stream) e = some e :=
    fun e => Nats.Client.foldlM_follow?_of_silent (follow_dismissed stream d)
  rcases silent with rfl | rfl
  · rw [List.nil_append, hdismissed] at follows
    exact Or.inl (Option.some.inj follows).symm
  · rw [List.singleton_append, List.foldlM_cons, Option.bind_eq_bind,
      Option.bind_eq_some_iff] at follows
    obtain ⟨e, he, hrest⟩ := follows
    rw [hdismissed] at hrest
    obtain rfl := Option.some.inj hrest
    simp only [Nats.Client.follow?] at he
    split at he
    · exact Or.inl (Option.some.inj he).symm
    · exact Or.inr ⟨_, he⟩

/-- The client does nothing. -/
theorem Storage.unconcerned {d : Dispatcher β} {c : Nats.Client} (hs : Storage a ids h w)
    (follows : seen.foldlM (Nats.Client.follow? w.stream) w.client = some c)
    (quiet : ∀ s ∈ seen, ∀ e, Nats.Client.follow? w.stream e s = some e)
    (silent : calls (h ++ seen) = calls h)
    (awaits : ∀ m, Awaits w.dispatcher m → Awaits d m)
    (taken : ∀ m, InHand a ids h w.dispatcher m → d.taken = w.dispatcher.taken) :
    Storage a ids (h ++ seen) ⟨d, c, w.stream⟩ := by
  obtain rfl : w.client = c := by
    rw [Nats.Client.foldlM_follow?_of_silent quiet] at follows
    exact Option.some.inj follows
  exact hs.still silent awaits taken

/-! ### Steps and runs -/

theorem Storage.turn (hs : Storage a ids h w) {done : List Handover} {rest : List Call}
    (hp : Progress a ids h w.dispatcher done rest)
    (distinct : (ids.drawMany w.dispatcher.taken).Nodup) {d : Dispatcher β} {c : Nats.Client}
    (turn : Dispatcher.Turn a w.dispatcher seen d)
    (follows : seen.foldlM (Nats.Client.follow? w.stream) w.client = some c) :
    Storage a ids (h ++ seen) ⟨d, c, w.stream⟩ := by
  have hone : ∀ {s : Sight}, [s].foldlM (Nats.Client.follow? w.stream) w.client = some c →
      Nats.Client.follow? w.stream w.client s = some c := by
    intro s hfollows
    simpa using hfollows
  have hnothing : calls (h ++ []) = calls h := calls_append_of_silent (by simp)
  -- only a dispatcher that waits for an answer has called, and the other stages do not wait
  cases turn with
  | connecting stage dial goesOn =>
    have hfree := Dispatcher.not_awaits (d := w.dispatcher) (by simp [stage]) (by simp [stage])
    exact hs.unconcerned follows (by simp) hnothing (fun m hm => absurd hm (hfree m))
      fun _ _ => rfl
  | connected stage dial =>
    have hfree := Dispatcher.not_awaits (d := w.dispatcher) (by simp [stage]) (by simp [stage])
    exact hs.unconcerned follows (by simp) hnothing (fun m hm => absurd hm (hfree m))
      fun _ _ => rfl
  | took stage items =>
    have hfree := Dispatcher.not_awaits (d := w.dispatcher) (by simp [stage]) (by simp [stage])
    refine hs.unconcerned follows (follow_served _ _) (Dispatcher.calls_append_served _ _)
      (fun m hm => absurd hm (hfree m)) fun m hand => ?_
    -- no message is in hand when a log is taken
    obtain ⟨-, hcount⟩ := hp.standing.resting_of (by simp [stage]) (by simp [stage])
    have htaken := hand.taken
    rw [hp.acked_eq] at htaken
    omega
  | sent stage =>
    refine hs.sent stage ?_ ?_ (hone follows)
    · exact .asked rfl
    · rfl
  | acknowledged stage arrived answer =>
    refine hs.answered hp distinct stage ?_ (hone follows)
    rfl
  | refused stage arrived answer =>
    refine hs.answered hp distinct stage ?_ (hone follows)
    rfl
  | woke stage due =>
    have hfree := Dispatcher.not_awaits (d := w.dispatcher) (by simp [stage]) (by simp [stage])
    exact hs.unconcerned follows (by simp) hnothing (fun m hm => absurd hm (hfree m))
      fun _ _ => rfl

theorem Storage.work (hs : Storage a ids h w) {done : List Handover} {rest : List Call}
    (hp : Progress a ids h w.dispatcher done rest)
    (distinct : (ids.drawMany w.dispatcher.taken).Nodup) {d : Dispatcher β} {c : Nats.Client}
    (step : Dispatcher.Step a h w.dispatcher seen d)
    (follows : seen.foldlM (Nats.Client.follow? w.stream) w.client = some c) :
    Storage a ids (h ++ seen) ⟨d, c, w.stream⟩ := by
  rcases step.turn_or_silent with turn | hsilent
  · exact hs.turn hp distinct turn follows
  · cases step with
    | turn turn => exact hs.turn hp distinct turn follows
    | start stage isOpen =>
      have hfree := Dispatcher.not_awaits (d := w.dispatcher) (by simp [stage]) (by simp [stage])
      exact hs.unconcerned follows (by simp) hsilent (fun m hm => absurd hm (hfree m))
        fun _ _ => rfl
    | drop stage =>
      exact hs.unconcerned follows (follow_dismissed _ _) hsilent (fun _ hm => hm.same rfl)
        fun _ _ => rfl
    | released request kept =>
      refine hs.unconcerned follows (fun s hmem e => ?_) hsilent (fun _ hm => hm.same rfl)
        fun _ _ => rfl
      rcases List.mem_cons.mp hmem with rfl | hrest
      · rfl
      · exact follow_served _ _ s hrest e
    | ending silent ending =>
      -- the dispatcher has ended, whatever it has left open
      have hended : ∃ time, d.stage = .stopped time := by
        cases ending with
        | unconnected stage cancelled link => exact ⟨_, rfl⟩
        | exhausted stage left drained => exact ⟨_, rfl⟩
        | resigned stage cancelled => exact ⟨_, rfl⟩
      have htaken : d.taken = w.dispatcher.taken := by
        cases ending with
        | unconnected stage cancelled link => rfl
        | exhausted stage left drained => rfl
        | resigned stage cancelled => rfl
      obtain ⟨time, hstage⟩ := hended
      have hclient : Storage a ids h ⟨w.dispatcher, c, w.stream⟩ := by
        rcases follow_ending silent follows with rfl | ⟨ticket, hmade⟩
        · exact hs
        · exact hs.client rfl hmade
      exact hclient.still hsilent (fun _ _ => .ended hstage) fun _ _ => htaken
    | _ =>
      exact hs.unconcerned follows (by simp [Nats.Client.follow?]) hsilent
        (fun _ hm => hm.same rfl) fun _ _ => rfl

/-- The dispatcher takes one log after the other and gives none back. -/
theorem taken_le (step : Step a h w seen w') : w.dispatcher.taken ≤ w'.dispatcher.taken := by
  cases step with
  | client noCall made => exact Nat.le_refl _
  | arrive requested => exact Nat.le_refl _
  | work proper made follows =>
    cases Dispatcher.step_of_step? proper made with
    | turn turn =>
      cases turn with
      | took stage items => exact Nat.le_succ _
      | _ => exact Nat.le_refl _
    | ending silent ending => cases ending <;> exact Nat.le_refl _
    | _ => exact Nat.le_refl _

/-- **What is stored after any run.** -/
theorem Run.storage {broker : β} {q : Queue Log} {config : Nats.Config} {n : Nat}
    (hq : Queue.new? C = some q) (distinct : (ids.drawMany n).Nodup)
    (run : Run a ⟨.new broker q ids, .new config, []⟩ h w) (le : w.dispatcher.taken ≤ n) :
    Storage a ids h w := by
  -- by induction on the run; `n` ids are different, and no more are drawn
  induction run with
  | begin => exact .begin config
  | @move h seen m w w' run proper made ih =>
    have step := step_of_step? proper made
    have hle : w.dispatcher.taken ≤ n := Nat.le_trans (taken_le step) le
    have hs : Storage a ids h w := ih hle
    obtain ⟨done, rest, hp⟩ := run.dispatcher.progress hq
    -- fewer ids are different, too
    have hdistinct : (ids.drawMany w.dispatcher.taken).Nodup :=
      distinct.sublist (ids.drawMany_prefix hle).sublist
    cases step with
    | work rules goes follows =>
      exact hs.work hp hdistinct (Dispatcher.step_of_step? rules goes) follows
    | client noCall goes =>
      rw [List.append_nil]
      exact hs.client noCall goes
    | arrive requested =>
      rw [List.append_nil]
      exact hs.arrive hp hdistinct requested

/-- **What a stream holds** of the logs of a dispatcher. -/
structure Stored (a : Assignment β) (ids : IdStream) (h : List Sight) (w : Route β) : Prop where
  /-- The acknowledged messages are those of the first accepted logs. -/
  acked : acked h <+: Dispatcher.messages a ids h
  /-- They come first, in this order, and behind them there is one more message at most: that of the
  log that is being published, or was when the dispatcher gave up. -/
  stream : w.stream = History.acked h ∨ ∃ m, w.stream = History.acked h ++ [m] ∧
    History.acked h ++ [m] <+: Dispatcher.messages a ids h ∧
    ((∃ l t, w.dispatcher.stage = .publishing l m t) ∨
      ∃ time, w.dispatcher.stage = .stopped time ∧ w.dispatcher.worker.cancelled = true)
  /-- No message is there twice. -/
  once : (w.stream.map (·.id)).Nodup
  /-- A late copy of a message that was acknowledged changes nothing. -/
  late : ∀ m ∈ History.acked h, Nats.Stream.store w.stream m = w.stream

/-- **Every message is stored once.** Whatever requests and acknowledgments are lost, delayed or
overtaken, however often the client and the dispatcher repeat them, and whenever the dispatcher is
told to give up: if the ids that are drawn are different, the stream holds one copy of each
acknowledged message, in the order in which the logs were accepted, and then one message more at
most. -/
theorem stored_once {broker : β} {q : Queue Log} {config : Nats.Config}
    (capacity : Queue.new? C = some q)
    (run : Run a ⟨.new broker q ids, .new config, []⟩ h w)
    (distinct : (ids.drawMany w.dispatcher.taken).Nodup) : Stored a ids h w := by
  have hs : Storage a ids h w := run.storage capacity distinct (Nat.le_refl _)
  obtain ⟨done, rest, hp⟩ := run.dispatcher.progress capacity
  have hfirst : acked h <+: Dispatcher.messages a ids h := by
    rw [hp.acked_eq]
    exact hp.inOrder
  refine ⟨hfirst, ?_, ?_, fun m hm => Nats.Stream.store_of_mem ?_⟩
  · rcases hs.stream with all | ⟨m, hand, more⟩
    · exact Or.inl all
    · refine Or.inr ⟨m, more, hand.next, ?_⟩
      have hcount := hand.taken
      rw [hp.acked_eq] at hcount
      cases hp.standing with
      | resting stage count => omega
      | @publishing l m' t rest stage count next attempts =>
        rw [hand.unique (hp.inHand stage)]
        exact Or.inl ⟨l, t, stage⟩
      | resigned stage cancelled count next attempts => exact Or.inr ⟨_, stage, cancelled⟩
  · rcases hs.stream with all | ⟨m, hand, more⟩
    · rw [all]
      exact nodup_ids distinct (hp.acked_le_taken) hfirst
    · rw [more]
      refine nodup_ids distinct (Nat.le_of_eq ?_) hand.next
      rw [hand.taken, List.length_append, List.length_singleton]
  · rcases hs.stream with all | ⟨m', -, more⟩
    · rw [all]
      exact hm
    · rw [more]
      exact List.mem_append_left _ hm

namespace Rehearsal

/-- A dispatcher that was not started, a client that repeats a request once, and an empty stream. -/
def start : Route Scripted.Broker where
  dispatcher := Dispatcher.Rehearsal.dispatcher
  client := .new { Nats.Config.default with retries := 1 }
  stream := []

/-- The first request of the first log is late, and the second one arrives, but its acknowledgment
is lost. The log is sent again and acknowledged, and only then the first request arrives. The second
log is being published when the dispatcher gives up. -/
def moves : List Move :=
  [.work (.submit 0 true default), .work (.submit 1 true default), .work .start, .work .proceed,
    .work .proceed, .work .proceed, .work .proceed, .fail 0 (.connection "late"), .rest 0,
    .arrive 0, .work .proceed, .work (.wait 200000), .work .proceed, .work .proceed, .arrive 0,
    .work .proceed, .arrive 2, .work .proceed, .work .proceed, .arrive 0, .work .cancel,
    .work .quit]

/-- What is seen of it, and what comes of it. -/
def outcome : List Sight × Route Scripted.Broker :=
  play Dispatcher.Rehearsal.assignment start moves

end Rehearsal

theorem rehearsal_stored :
    (Rehearsal.outcome.2.client.requests.map (·.1), (calls Rehearsal.outcome.1).map (·.isAcked),
        (acked Rehearsal.outcome.1).length, Rehearsal.outcome.2.stream.length)
      = ([3, 2, 0, 0], [false, true, false], 1, 2) ∧
      Stored Dispatcher.Rehearsal.assignment .counted Rehearsal.outcome.1 Rehearsal.outcome.2 :=
  ⟨rfl, stored_once Dispatcher.Rehearsal.capacity (run_play ..) (by decide)⟩

end Route

end AuditRelay
