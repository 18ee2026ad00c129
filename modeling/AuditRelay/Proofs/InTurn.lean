import AuditRelay.Proofs.Stock
import Mathlib.Data.List.Basic

/-!
# In turn

A dispatcher hands one message at a time to the broker. Every accepted log becomes one message, that
of its place in the queue (`messageAt`); it is sent again and again, and always the same, until the
broker acknowledges it, and only then comes the next one.

`Progress` is the invariant: the calls so far are those of the messages that the broker has taken,
each refused some times and then acknowledged, and behind them the calls of at most one message that
it has not taken yet. `Standing` says which stage of the dispatcher goes with such calls.
-/

namespace AuditRelay

open History

/-! ### The messages of a run -/

/-- The message of the log that is taken as the `i`-th. -/
def messageAt {β : Type} (a : Assignment β) (ids : IdStream) (i : Nat) (l : Log) : Message :=
  a.message i (l.enrich a.settings.origin (ids.nth i))

/-- The messages of logs, taken in this order. -/
def messagesOf {β : Type} (a : Assignment β) (ids : IdStream) (ls : List Log) : List Message :=
  ls.mapIdx (messageAt a ids)

/-- The calls to the broker by which a message was refused. -/
def refusals (m : Message) (reasons : List Failure) : List Call :=
  reasons.map fun e => ⟨m, some (.error e)⟩

/-- A message that the broker has taken: it was refused some times, and then acknowledged. -/
structure Handover where
  message : Message
  reasons : List Failure
  /-- The number that the broker has given it. -/
  sequence : Nat

/-- All calls of such a message. -/
def Handover.calls (o : Handover) : List Call :=
  refusals o.message o.reasons ++ [⟨o.message, some (.ok o.sequence)⟩]

section Messages

variable {β : Type} (a : Assignment β) (ids : IdStream)

@[simp] theorem length_messagesOf (ls : List Log) : (messagesOf a ids ls).length = ls.length :=
  List.length_mapIdx

/-- Later logs change nothing about the messages of earlier ones. -/
theorem messagesOf_grow (ls more : List Log) :
    messagesOf a ids ls <+: messagesOf a ids (ls ++ more) := by
  -- the message of a log depends on the log and its place only
  rw [messagesOf, messagesOf, List.mapIdx_append]
  exact List.prefix_append ..

/-- One message more. -/
theorem messagesOf_take_succ {ls rest : List Log} {raw : Log} {n : Nat}
    (next : raw :: rest = ls.drop n) :
    (messagesOf a ids ls).take n ++ [messageAt a ids n raw] <+: messagesOf a ids ls := by
  have hraw : ls[n]? = some raw := by
    have := congrArg List.head? next
    rw [List.head?_drop] at this
    exact this.symm
  have hmessage : (messagesOf a ids ls)[n]? = some (messageAt a ids n raw) := by
    rw [messagesOf, List.getElem?_mapIdx, hraw]
    rfl
  have htake : (messagesOf a ids ls).take (n + 1)
      = (messagesOf a ids ls).take n ++ [messageAt a ids n raw] := by
    rw [List.take_add_one, hmessage]
    rfl
  rw [← htake]
  exact List.take_prefix ..

end Messages

/-! ### Counting calls -/

theorem map_message_snoc (cs : List Call) (m : Message) (o : Option (Except Failure Nat)) :
    (cs ++ [(⟨m, o⟩ : Call)]).map (·.message) = cs.map (·.message) ++ [m] :=
  List.map_append

theorem acked_of_refusals (m : Message) (reasons : List Failure) :
    (refusals m reasons).filter (·.isAcked) = [] := by
  rw [refusals, List.filter_map, List.map_eq_nil_iff]
  exact List.filter_eq_nil_iff.mpr fun e _ => by simp [Call.isAcked]

theorem Handover.acked_calls (o : Handover) :
    (o.calls.filter (·.isAcked)).map (·.message) = [o.message] := by
  rw [Handover.calls, List.filter_append, acked_of_refusals]
  rfl

theorem acked_calls_flatMap (done : List Handover) :
    ((done.flatMap (·.calls)).filter (·.isAcked)).map (·.message) = done.map (·.message) := by
  induction done with
  | nil => rfl
  | cons o rest ih =>
    rw [List.flatMap_cons, List.filter_append, List.map_append, ih, o.acked_calls]
    rfl

/-! ### The message in hand -/

theorem mem_refusals {m : Message} {reasons : List Failure} {c : Call}
    (hc : c ∈ refusals m reasons) : c.message = m := by
  obtain ⟨e, -, rfl⟩ := List.mem_map.mp hc
  rfl

/-- How the calls of a message go with the trial of it. -/
inductive Attempts (m : Message) : Trial Nat → List Call → Prop where
  /-- The next call is to be made. -/
  | ready (reasons : List Failure) : Attempts m (.ready reasons.length) (refusals m reasons)
  /-- The last call is not answered. -/
  | asked (reasons : List Failure) (since : Nat) (reply : Reply Nat) :
    Attempts m (.asked (reasons.length + 1) since reply) (refusals m reasons ++ [⟨m, none⟩])
  /-- The last call was refused, and the next one follows after a pause. -/
  | paused (reasons : List Failure) (wake : Nat) (refused : reasons ≠ []) :
    Attempts m (.paused reasons.length wake) (refusals m reasons)

theorem Attempts.acked {m : Message} {t : Trial Nat} {rest : List Call} (h : Attempts m t rest) :
    rest.filter (·.isAcked) = [] := by
  cases h with
  | ready reasons => exact acked_of_refusals m reasons
  | asked reasons since reply =>
    rw [List.filter_append, acked_of_refusals]
    rfl
  | paused reasons wake refused => exact acked_of_refusals m reasons

/-- All these calls are with the message in hand. -/
theorem Attempts.mem {m : Message} {t : Trial Nat} {rest : List Call} (h : Attempts m t rest)
    {c : Call} (hc : c ∈ rest) : c.message = m := by
  cases h with
  | ready reasons => exact mem_refusals hc
  | paused reasons wake refused => exact mem_refusals hc
  | asked reasons since reply =>
    rcases List.mem_append.mp hc with hrefused | hlast
    · exact mem_refusals hrefused
    · rw [List.mem_singleton.mp hlast]

namespace Dispatcher

variable {β : Type} {a : Assignment β} {C : Nat} {ids : IdStream} {h seen : List Sight}
  {d d' : Dispatcher β}

/-- The messages of the logs that the queue has accepted. -/
def messages (a : Assignment β) (ids : IdStream) (h : List Sight) : List Message :=
  messagesOf a ids (logs (accepted h))

/-- **Where the dispatcher stands** when the broker has taken the messages `taken`, and `rest` are
the calls behind theirs. -/
inductive Standing (d : Dispatcher β) (all taken : List Message) : List Call → Prop where
  /-- No message is in hand. -/
  | resting (stage : ∀ l m t, d.stage ≠ .publishing l m t) (count : d.taken = taken.length) :
    Standing d all taken []
  /-- The next message is in hand. -/
  | publishing {l : Log} {m : Message} {t : Trial Nat} {rest : List Call}
    (stage : d.stage = .publishing l m t) (count : d.taken = taken.length + 1)
    (next : taken ++ [m] <+: all) (attempts : Attempts m t rest) : Standing d all taken rest
  /-- The next message was in hand when the dispatcher gave up. -/
  | resigned {m : Message} {t : Trial Nat} {rest : List Call} {time : Nat}
    (stage : d.stage = .stopped time) (cancelled : d.worker.cancelled = true)
    (count : d.taken = taken.length + 1) (next : taken ++ [m] <+: all)
    (attempts : Attempts m t rest) : Standing d all taken rest

/-- **One message after the other.** -/
structure Progress (a : Assignment β) (ids : IdStream) (h : List Sight) (d : Dispatcher β)
    (done : List Handover) (rest : List Call) : Prop where
  calls_eq : calls h = done.flatMap (·.calls) ++ rest
  inOrder : done.map (·.message) <+: messages a ids h
  standing : Standing d (messages a ids h) (done.map (·.message)) rest
  /-- An id is drawn for every log that is taken. -/
  ids_eq : d.ids = ids.drop d.taken
  published : d.worker.stats.published = done.length
  retries : d.worker.stats.retries = (calls h).countP (·.isRefused)
  /-- What the worker has noted of its calls. -/
  sends : d.worker.sends.reverse.map (·.2) = (calls h).map (·.message)

theorem messages_grow (a : Assignment β) (ids : IdStream) (h seen : List Sight) :
    messages a ids h <+: messages a ids (h ++ seen) := by
  rw [messages, messages, accepted_append, logs_append]
  exact messagesOf_grow ..

theorem Progress.begin {broker : β} {q : Queue Log} :
    Progress a ids [] (.new broker q ids) [] [] where
  calls_eq := rfl
  inOrder := List.nil_prefix
  standing := .resting (fun _ _ _ => by simp [Dispatcher.new]) rfl
  ids_eq := ids.drop_zero.symm
  published := rfl
  retries := rfl
  sends := rfl

theorem Standing.mono {all all' taken : List Message} {rest : List Call}
    (hs : Standing d all taken rest) (grows : all <+: all') : Standing d all' taken rest := by
  -- more messages leave the next one where it is
  cases hs with
  | resting stage count => exact .resting stage count
  | publishing stage count next attempts =>
    exact .publishing stage count (next.trans grows) attempts
  | resigned stage cancelled count next attempts =>
    exact .resigned stage cancelled count (next.trans grows) attempts

theorem Standing.same {all taken : List Message} {rest : List Call}
    (hs : Standing d all taken rest) (stage : d'.stage = d.stage) (count : d'.taken = d.taken)
    (cancelled : d.worker.cancelled = true → d'.worker.cancelled = true) :
    Standing d' all taken rest := by
  cases hs with
  | resting hstage hcount =>
    exact .resting (by rw [stage]; exact hstage) (by rw [count]; exact hcount)
  | publishing hstage hcount next attempts =>
    exact .publishing (by rw [stage]; exact hstage) (by rw [count]; exact hcount) next attempts
  | resigned hstage hcancelled hcount next attempts =>
    exact .resigned (by rw [stage]; exact hstage) (cancelled hcancelled)
      (by rw [count]; exact hcount) next attempts

/-- Without a message in hand there are no calls but those of the messages that were taken. -/
theorem Standing.resting_of {all taken : List Message} {rest : List Call}
    (hs : Standing d all taken rest) (free : ∀ l m t, d.stage ≠ .publishing l m t)
    (running : ∀ time, d.stage ≠ .stopped time) : rest = [] ∧ d.taken = taken.length := by
  cases hs with
  | resting stage count => exact ⟨rfl, count⟩
  | publishing stage count next attempts => exact absurd stage (free _ _ _)
  | resigned stage cancelled count next attempts => exact absurd stage (running _)

/-- The message in hand is the next one. -/
theorem Standing.publishing_of {all taken : List Message} {rest : List Call}
    (hs : Standing d all taken rest) {l : Log} {m : Message} {t : Trial Nat}
    (stage : d.stage = .publishing l m t) :
    d.taken = taken.length + 1 ∧ taken ++ [m] <+: all ∧ Attempts m t rest := by
  cases hs with
  | resting hstage count => exact absurd stage (hstage _ _ _)
  | publishing hstage count next attempts =>
    rw [stage] at hstage
    obtain ⟨rfl, rfl, rfl⟩ := Stage.publishing.inj hstage
    exact ⟨count, next, attempts⟩
  | resigned hstage cancelled count next attempts =>
    rw [stage] at hstage
    exact absurd hstage (by simp)

/-- Nothing happens between the dispatcher and the broker. -/
theorem Progress.still {done : List Handover} {rest : List Call}
    (hp : Progress a ids h d done rest) (taken : d'.taken = d.taken) (source : d'.ids = d.ids)
    (stats : d'.worker.stats = d.worker.stats) (sends : d'.worker.sends = d.worker.sends)
    (silent : calls (h ++ seen) = calls h)
    (standing : ∀ {all taken}, Standing d all taken rest → Standing d' all taken rest) :
    Progress a ids (h ++ seen) d' done rest where
  calls_eq := by rw [silent]; exact hp.calls_eq
  inOrder := hp.inOrder.trans (messages_grow ..)
  standing := standing (hp.standing.mono (messages_grow ..))
  ids_eq := by rw [source, taken]; exact hp.ids_eq
  published := by rw [stats]; exact hp.published
  retries := by rw [stats, silent]; exact hp.retries
  sends := by rw [sends, silent]; exact hp.sends

/-- What is seen of the producers is no call. -/
theorem calls_append_served (h : List Sight) (q : Queue Log) : calls (h ++ q.served) = calls h := by
  refine calls_append_of_silent fun s hs cs => ?_
  rcases Queue.mem_served hs with ⟨t, rfl⟩ | ⟨t, l, rfl⟩
  · rfl
  · rfl

theorem calls_append_dismissed (h : List Sight) (d : Dispatcher β) :
    calls (h ++ d.dismissed) = calls h := by
  refine calls_append_of_silent fun s hs cs => ?_
  obtain ⟨t, rfl⟩ := mem_dismissed hs
  rfl

/-- The next log becomes the message in hand. -/
theorem Progress.took {done : List Handover} {rest : List Call} (hs : Stock C h d)
    (hp : Progress a ids h d done rest) {raw : Log} {left : List Log} (stage : d.stage = .idle)
    (items : d.queue.items = raw :: left)
    (now : d'.stage = .publishing (raw.enrich a.settings.origin d.ids.draw.1)
      (a.message d.taken (raw.enrich a.settings.origin d.ids.draw.1)) .start)
    (taken : d'.taken = d.taken + 1) (source : d'.ids = d.ids.draw.2)
    (stats : d'.worker.stats = d.worker.stats) (sends : d'.worker.sends = d.worker.sends) :
    Progress a ids (h ++ d.queue.served) d' done rest := by
  obtain ⟨rfl, hcount⟩ := hp.standing.resting_of (by simp [stage]) (by simp [stage])
  have isOpen : d.queue.isOpen = true := hs.sound.isOpen_of_items (by rw [items]; simp)
  -- the id that is drawn is the one for this place
  have hmessage : a.message d.taken (raw.enrich a.settings.origin d.ids.draw.1)
      = messageAt a ids d.taken raw := by
    rw [messageAt, hp.ids_eq]
    rfl
  -- the log that is taken is the first one that was not taken before
  have hnext : done.map (·.message) ++ [messageAt a ids d.taken raw] <+: messages a ids h := by
    rw [List.prefix_iff_eq_take.mp hp.inOrder, ← hcount]
    exact messagesOf_take_succ a ids (items ▸ hs.items_eq isOpen)
  have hcalls := calls_append_served h d.queue
  refine ⟨?_, ?_, ?_, ?_, ?_, ?_, ?_⟩
  · rw [hcalls]
    exact hp.calls_eq
  · exact hp.inOrder.trans (messages_grow ..)
  · refine .publishing now (by rw [taken, hcount]) ?_ (.ready [])
    rw [hmessage]
    exact hnext.trans (messages_grow ..)
  · rw [source, taken, hp.ids_eq]
    exact ids.drop_drop ..
  · rw [stats]
    exact hp.published
  · rw [stats, hcalls]
    exact hp.retries
  · rw [sends, hcalls]
    exact hp.sends

/-- A call begins. -/
theorem Progress.sent {done : List Handover} {rest : List Call} (hp : Progress a ids h d done rest)
    {l : Log} {m : Message} {made since : Nat} {reply : Reply Nat}
    (stage : d.stage = .publishing l m (.ready made))
    (now : d'.stage = .publishing l m (.asked (made + 1) since reply))
    (taken : d'.taken = d.taken) (source : d'.ids = d.ids)
    (stats : d'.worker.stats = d.worker.stats)
    (sends : d'.worker.sends = (d.worker.now, m) :: d.worker.sends) :
    Progress a ids (h ++ [.sent m]) d' done (rest ++ [⟨m, none⟩]) := by
  obtain ⟨hcount, next, attempts⟩ := hp.standing.publishing_of stage
  have hcalls := calls_append_sent h m
  -- the message is the same as before, and one call with it is open now
  cases attempts with
  | ready reasons =>
    refine ⟨?_, ?_, ?_, ?_, ?_, ?_, ?_⟩
    · rw [hcalls, hp.calls_eq, List.append_assoc]
    · exact hp.inOrder.trans (messages_grow ..)
    · exact .publishing now (by rw [taken]; exact hcount) (next.trans (messages_grow ..))
        (.asked reasons since reply)
    · rw [source, taken]
      exact hp.ids_eq
    · rw [stats]
      exact hp.published
    · rw [stats, hcalls, List.countP_append]
      exact hp.retries
    · rw [sends, hcalls, List.reverse_cons, List.map_append, hp.sends, List.map_append]
      rfl

/-- The calls of a run while the last one is not answered. -/
theorem Progress.calls_of_asked {done : List Handover} {rest : List Call}
    (hp : Progress a ids h d done rest) {l : Log} {m : Message} {made since : Nat}
    {reply : Reply Nat} (stage : d.stage = .publishing l m (.asked made since reply)) :
    ∃ reasons, made = reasons.length + 1 ∧ rest = refusals m reasons ++ [⟨m, none⟩] ∧
      calls h = done.flatMap (·.calls) ++ refusals m reasons ++ [⟨m, none⟩] := by
  obtain ⟨-, -, attempts⟩ := hp.standing.publishing_of stage
  cases attempts with
  | asked reasons since reply =>
    refine ⟨reasons, rfl, rfl, ?_⟩
    rw [hp.calls_eq, List.append_assoc]

/-- The broker takes the message in hand. -/
theorem Progress.acknowledged {done : List Handover} {rest : List Call}
    (hp : Progress a ids h d done rest) {l : Log} {m : Message} {made since sequence : Nat}
    {reply : Reply Nat} (stage : d.stage = .publishing l m (.asked made since reply))
    (now : d'.stage = .idle) (taken : d'.taken = d.taken) (source : d'.ids = d.ids)
    (stats : d'.worker.stats
      = { d.worker.stats with published := d.worker.stats.published + 1 })
    (sends : d'.worker.sends = d.worker.sends) :
    ∃ done' rest', Progress a ids (h ++ [.answered (.ok sequence)]) d' done' rest' := by
  obtain ⟨hcount, next, -⟩ := hp.standing.publishing_of stage
  obtain ⟨reasons, -, -, hcalls⟩ := hp.calls_of_asked stage
  have hcalls' := calls_append_answered hcalls (.ok sequence)
  -- all calls of the message are complete, and it joins those that were taken
  refine ⟨done ++ [⟨m, reasons, sequence⟩], [], ?_, ?_, ?_, ?_, ?_, ?_, ?_⟩
  · rw [hcalls', List.flatMap_append, List.append_nil, List.append_assoc]
    simp [Handover.calls]
  · rw [List.map_append]
    exact next.trans (messages_grow ..)
  · refine .resting (by simp [now]) ?_
    rw [taken, hcount, List.map_append, List.length_append]
    rfl
  · rw [source, taken]
    exact hp.ids_eq
  · rw [stats, List.length_append]
    exact congrArg (· + 1) hp.published
  · rw [stats, hcalls', List.countP_append]
    change d.worker.stats.retries = _
    rw [hp.retries, hcalls, List.countP_append]
    rfl
  · rw [sends, hp.sends, hcalls, hcalls', map_message_snoc, map_message_snoc]

/-- The broker refuses the message in hand. -/
theorem Progress.refused {done : List Handover} {rest : List Call}
    (hp : Progress a ids h d done rest) {l : Log} {m : Message} {made since wake : Nat}
    {reply : Reply Nat} {e : Failure} (stage : d.stage = .publishing l m (.asked made since reply))
    (now : d'.stage = .publishing l m (.paused made wake)) (taken : d'.taken = d.taken)
    (source : d'.ids = d.ids)
    (stats : d'.worker.stats = { d.worker.stats with retries := d.worker.stats.retries + 1 })
    (sends : d'.worker.sends = d.worker.sends) :
    ∃ done' rest', Progress a ids (h ++ [.answered (.error e)]) d' done' rest' := by
  obtain ⟨hcount, next, -⟩ := hp.standing.publishing_of stage
  obtain ⟨reasons, rfl, -, hcalls⟩ := hp.calls_of_asked stage
  have hcalls' := calls_append_answered hcalls (.error e)
  have hrefusals : refusals m (reasons ++ [e]) = refusals m reasons ++ [⟨m, some (.error e)⟩] :=
    List.map_append
  have hlength : (reasons ++ [e]).length = reasons.length + 1 := List.length_append
  -- one more refusal of the same message
  refine ⟨done, refusals m (reasons ++ [e]), ?_, ?_, ?_, ?_, ?_, ?_, ?_⟩
  · rw [hcalls', hrefusals, List.append_assoc]
  · exact hp.inOrder.trans (messages_grow ..)
  · refine .publishing now (by rw [taken]; exact hcount) (next.trans (messages_grow ..)) ?_
    rw [← hlength]
    exact .paused (reasons ++ [e]) wake (by simp)
  · rw [source, taken]
    exact hp.ids_eq
  · rw [stats]
    exact hp.published
  · rw [stats, hcalls', List.countP_append]
    change d.worker.stats.retries + 1 = _
    rw [hp.retries, hcalls, List.countP_append]
    rfl
  · rw [sends, hp.sends, hcalls, hcalls', map_message_snoc, map_message_snoc]

theorem Progress.turn {done : List Handover} {rest : List Call} (hs : Stock C h d)
    (hp : Progress a ids h d done rest) (turn : Turn a d seen d') :
    ∃ done' rest', Progress a ids (h ++ seen) d' done' rest' := by
  cases turn with
  | connecting stage dial goesOn =>
    obtain ⟨hstats, hsends, -⟩ := (dial_of_dial? dial).frame
    have hsilent : calls (h ++ []) = calls h := calls_append_of_silent (by simp)
    refine ⟨done, rest, hp.still rfl rfl hstats hsends hsilent fun hst => ?_⟩
    obtain ⟨rfl, hcount⟩ := hst.resting_of (by simp [stage]) (by simp [stage])
    exact .resting (by simp) hcount
  | connected stage dial =>
    obtain ⟨hstats, hsends, -⟩ := (dial_of_dial? dial).frame
    have hsilent : calls (h ++ []) = calls h := calls_append_of_silent (by simp)
    refine ⟨done, rest, hp.still rfl rfl hstats hsends hsilent fun hst => ?_⟩
    obtain ⟨rfl, hcount⟩ := hst.resting_of (by simp [stage]) (by simp [stage])
    exact .resting (by simp [tell]) hcount
  | took stage items => exact ⟨done, rest, hp.took hs stage items rfl rfl rfl rfl rfl⟩
  | sent stage => exact ⟨done, _, hp.sent stage rfl rfl rfl rfl rfl⟩
  | acknowledged stage arrived answer => exact hp.acknowledged stage rfl rfl rfl rfl rfl
  | refused stage arrived answer => exact hp.refused stage rfl rfl rfl rfl rfl
  -- the pause is over, and the number of calls is still that of the refusals
  | woke stage due =>
    refine ⟨done, rest, hp.still rfl rfl rfl rfl (calls_append_of_silent (by simp)) fun hst => ?_⟩
    obtain ⟨hcount, next, attempts⟩ := hst.publishing_of stage
    cases attempts with
    | paused reasons wake refused => exact .publishing rfl hcount next (.ready reasons)

theorem Progress.ending {done : List Handover} {rest : List Call}
    (hp : Progress a ids h d done rest) (ending : Ending d d')
    (silent : calls (h ++ seen) = calls h) : Progress a ids (h ++ seen) d' done rest := by
  cases ending with
  | @unconnected t w stage cancelled link =>
    have hstats : w.stats = d.worker.stats := by rw [link]
    have hsends : w.sends = d.worker.sends := by rw [link]
    refine hp.still rfl rfl hstats hsends silent fun hst => ?_
    obtain ⟨rfl, hcount⟩ := hst.resting_of (by simp [stage]) (by simp [stage])
    exact .resting (by simp [stop, closeQueue, resolve]) hcount
  | exhausted stage left drained =>
    refine hp.still rfl rfl rfl rfl silent fun hst => ?_
    obtain ⟨rfl, hcount⟩ := hst.resting_of (by simp [stage]) (by simp [stage])
    exact .resting (by simp [finish, stop, closeQueue, resolve]) hcount
  | resigned stage cancelled =>
    refine hp.still rfl rfl rfl rfl silent fun hst => ?_
    -- the dispatcher gives up between two messages or with one in hand
    rcases stage with stage | ⟨l, m, t, stage⟩
    · obtain ⟨rfl, hcount⟩ := hst.resting_of (by simp [stage]) (by simp [stage])
      exact .resting (by simp [finish, stop, closeQueue, resolve]) hcount
    · obtain ⟨hcount, next, attempts⟩ := hst.publishing_of stage
      exact .resigned rfl cancelled hcount next attempts

/-- Only a turn of the dispatcher shows anything of the calls. -/
theorem Step.turn_or_silent (step : Step a h d seen d') :
    Turn a d seen d' ∨ calls (h ++ seen) = calls h := by
  cases step with
  | turn turn => exact Or.inl turn
  | drop stage => exact Or.inr (calls_append_dismissed h d)
  | @released t l request kept =>
    refine Or.inr ?_
    rw [← List.singleton_append, ← List.append_assoc, calls_append_served]
    exact calls_append_of_silent (by simp [note])
  | @ending s _ silent ending =>
    refine Or.inr ?_
    rw [← List.append_assoc, calls_append_dismissed]
    refine calls_append_of_silent fun s' hs' cs => ?_
    rcases silent with rfl | rfl
    · exact absurd hs' List.not_mem_nil
    · rw [List.mem_singleton.mp hs']
      rfl
  | _ => exact Or.inr (calls_append_of_silent (by simp [note]))

/-- **Every move keeps the order.** -/
theorem Progress.step {done : List Handover} {rest : List Call} (hs : Stock C h d)
    (hp : Progress a ids h d done rest) (step : Step a h d seen d') :
    ∃ done' rest', Progress a ids (h ++ seen) d' done' rest' := by
  rcases step.turn_or_silent with turn | hsilent
  · exact hp.turn hs turn
  · cases step with
    | start stage isOpen =>
      refine ⟨done, rest, hp.still rfl rfl rfl rfl hsilent fun hst => ?_⟩
      obtain ⟨rfl, hcount⟩ := hst.resting_of (by simp [stage]) (by simp [stage])
      exact .resting (by simp [Dispatcher.start, tell]) hcount
    | cancel =>
      exact ⟨done, rest, hp.still rfl rfl rfl rfl hsilent (·.same rfl rfl fun _ => rfl)⟩
    | turn turn => exact hp.turn hs turn
    | ending silent ending => exact ⟨done, rest, hp.ending ending hsilent⟩
    | _ => exact ⟨done, rest, hp.still rfl rfl rfl rfl hsilent (·.same rfl rfl id)⟩

/-- **The calls after any run.** -/
theorem Run.progress {broker : β} {q : Queue Log} (hq : Queue.new? C = some q)
    (run : Run a (.new broker q ids) h d) :
    ∃ done rest, Progress a ids h d done rest := by
  refine (run.keeps (P := fun h d => Stock C h d ∧ ∃ done rest, Progress a ids h d done rest)
    ?_ ?_).2
  · exact ⟨.begin hq, [], [], .begin⟩
  · exact fun ⟨hs, _, _, hp⟩ step => ⟨hs.step step, hp.step hs step⟩

/-- The acknowledged messages are those that the broker has taken. -/
theorem Progress.acked_eq {done : List Handover} {rest : List Call}
    (hp : Progress a ids h d done rest) : acked h = done.map (·.message) := by
  have hrest : rest.filter (·.isAcked) = [] := by
    cases hp.standing with
    | resting stage count => rfl
    | publishing stage count next attempts => exact attempts.acked
    | resigned stage cancelled count next attempts => exact attempts.acked
  rw [acked, hp.calls_eq, List.filter_append, hrest, List.append_nil]
  exact acked_calls_flatMap done

/-- **The message in hand** comes behind those that the broker has taken, and a log was taken for
it. -/
structure InHand (a : Assignment β) (ids : IdStream) (h : List Sight) (d : Dispatcher β)
    (m : Message) : Prop where
  next : acked h ++ [m] <+: messages a ids h
  taken : d.taken = (acked h).length + 1

/-- There is one message in hand at most. -/
theorem InHand.unique {m m' : Message} (hm : InHand a ids h d m) (hm' : InHand a ids h d m') :
    m = m' := by
  have hlength : (acked h ++ [m]).length ≤ (acked h ++ [m']).length := by
    rw [List.length_append, List.length_append]
    exact Nat.le_refl _
  have hboth := List.prefix_of_prefix_length_le hm.next hm'.next hlength
  -- both are the message at one and the same place
  have heq := hboth.eq_of_length (by rw [List.length_append, List.length_append]; rfl)
  exact List.singleton_inj.mp (List.append_cancel_left heq)

/-- **What is sent** is a message that was acknowledged or the message in hand. -/
theorem Progress.mem_calls {done : List Handover} {rest : List Call}
    (hp : Progress a ids h d done rest) {c : Call} (hc : c ∈ calls h) :
    c.message ∈ acked h ∨ InHand a ids h d c.message := by
  rw [hp.calls_eq] at hc
  -- calls of messages that were taken, and those behind them
  rcases List.mem_append.mp hc with hdone | hrest
  · obtain ⟨o, ho, hmem⟩ := List.mem_flatMap.mp hdone
    refine Or.inl ?_
    rw [hp.acked_eq]
    refine List.mem_map.mpr ⟨o, ho, ?_⟩
    rcases List.mem_append.mp hmem with hrefused | hacked
    · exact (mem_refusals hrefused).symm
    · rw [List.mem_singleton.mp hacked]
  · refine Or.inr ?_
    have hlength : (acked h).length = (done.map (·.message)).length := by rw [hp.acked_eq]
    cases hp.standing with
    | resting stage count => exact absurd hrest List.not_mem_nil
    | publishing stage count next attempts =>
      rw [attempts.mem hrest]
      exact ⟨by rw [hp.acked_eq]; exact next, by rw [hlength]; exact count⟩
    | resigned stage cancelled count next attempts =>
      rw [attempts.mem hrest]
      exact ⟨by rw [hp.acked_eq]; exact next, by rw [hlength]; exact count⟩

/-- The message that the dispatcher publishes is in hand. -/
theorem Progress.inHand {done : List Handover} {rest : List Call}
    (hp : Progress a ids h d done rest) {l : Log} {m : Message} {t : Trial Nat}
    (stage : d.stage = .publishing l m t) : InHand a ids h d m := by
  obtain ⟨count, next, -⟩ := hp.standing.publishing_of stage
  rw [← hp.acked_eq] at count next
  exact ⟨next, count⟩

/-- Why the broker has not taken a message that was sent to it. -/
inductive Unfinished (d : Dispatcher β) (m : Message) : (inFlight : Bool) → Prop where
  /-- The dispatcher has given up. -/
  | cancelled {time : Nat} {inFlight : Bool} (stopped : d.stage = .stopped time)
    (cancelled : d.worker.cancelled = true) : Unfinished d m inFlight
  /-- The last call has not been answered. -/
  | unanswered {l : Log} {made since : Nat} {reply : Reply Nat}
    (stage : d.stage = .publishing l m (.asked made since reply)) : Unfinished d m true
  /-- The last call was refused, and the next one comes after a pause. -/
  | pausing {l : Log} {made wake : Nat} (stage : d.stage = .publishing l m (.paused made wake)) :
    Unfinished d m false
  /-- The pause is over, and the next call is due. -/
  | retrying {l : Log} {made : Nat} (stage : d.stage = .publishing l m (.ready made))
    (again : 0 < made) : Unfinished d m false

/-- The calls of a message that the broker has not taken. -/
def unfinished (m : Message) (reasons : List Failure) (inFlight : Bool) : List Call :=
  refusals m reasons ++ if inFlight then [⟨m, none⟩] else []

theorem Standing.cases {all taken : List Message} {rest : List Call}
    (hst : Standing d all taken rest) :
    rest = [] ∨ ∃ m reasons inFlight, taken ++ [m] <+: all ∧ rest = unfinished m reasons inFlight ∧
      rest ≠ [] ∧ Unfinished d m inFlight := by
  -- either no call is left over, or all that are left over have one message
  by_cases hnil : rest = []
  · exact Or.inl hnil
  · refine Or.inr ?_
    cases hst with
    | resting stage count => exact absurd rfl hnil
    | publishing stage count next attempts =>
      cases attempts with
      | ready reasons =>
        have hpos : 0 < reasons.length := by
          refine List.length_pos_iff.mpr fun hr => hnil ?_
          rw [hr]
          rfl
        exact ⟨_, reasons, false, next, (List.append_nil _).symm, hnil, .retrying stage hpos⟩
      | asked reasons since reply => exact ⟨_, reasons, true, next, rfl, hnil, .unanswered stage⟩
      | paused reasons wake refused =>
        exact ⟨_, reasons, false, next, (List.append_nil _).symm, hnil, .pausing stage⟩
    | resigned stage cancelled count next attempts =>
      cases attempts with
      | ready reasons =>
        exact ⟨_, reasons, false, next, (List.append_nil _).symm, hnil, .cancelled stage cancelled⟩
      | asked reasons since reply =>
        exact ⟨_, reasons, true, next, rfl, hnil, .cancelled stage cancelled⟩
      | paused reasons wake refused =>
        exact ⟨_, reasons, false, next, (List.append_nil _).symm, hnil, .cancelled stage cancelled⟩

/-- **One message after the other, and every one until it is taken.** After any run, the calls to
the broker are those of the first accepted logs, each log refused some times and then acknowledged,
all with the one message of that log; behind them come at most the calls of the next log, which was
not acknowledged because the dispatcher has given up, waits for the answer or tries again. So the
acknowledged messages are those of the first accepted logs, in the order of acceptance. -/
theorem delivered_in_turn {broker : β} {q : Queue Log} (capacity : Queue.new? C = some q)
    (run : Run a (.new broker q ids) h d) :
    ∃ (done : List Handover) (rest : List Call),
      d.worker.sends.reverse.map (·.2) = (calls h).map (·.message) ∧
      calls h = done.flatMap (·.calls) ++ rest ∧
      done.map (·.message) <+: messages a ids h ∧
      acked h = done.map (·.message) ∧
      (rest = [] ∨ ∃ m reasons inFlight, done.map (·.message) ++ [m] <+: messages a ids h ∧
        rest = unfinished m reasons inFlight ∧ rest ≠ [] ∧ Unfinished d m inFlight) := by
  obtain ⟨done, rest, hp⟩ := run.progress capacity
  exact ⟨done, rest, hp.sends, hp.calls_eq, hp.inOrder, hp.acked_eq, hp.standing.cases⟩

theorem rehearsal_in_turn :
    (calls Rehearsal.outcome.1).map (fun c => (c.isRefused, c.isAcked))
        = [(true, false), (false, true), (false, false)] ∧
      ∃ (done : List Handover) (rest : List Call),
        Rehearsal.outcome.2.worker.sends.reverse.map (·.2)
          = (calls Rehearsal.outcome.1).map (·.message) ∧
        calls Rehearsal.outcome.1 = done.flatMap (·.calls) ++ rest ∧
        done.map (·.message) <+: messages Rehearsal.assignment .counted Rehearsal.outcome.1 ∧
        acked Rehearsal.outcome.1 = done.map (·.message) ∧
        (rest = [] ∨ ∃ m reasons inFlight,
          done.map (·.message) ++ [m]
            <+: messages Rehearsal.assignment .counted Rehearsal.outcome.1 ∧
            rest = unfinished m reasons inFlight ∧ rest ≠ [] ∧
            Unfinished Rehearsal.outcome.2 m inFlight) :=
  ⟨rfl, delivered_in_turn Rehearsal.capacity Rehearsal.run⟩

end Dispatcher

end AuditRelay
