import AuditRelay.Proofs.Backpressure
import AuditRelay.Proofs.Drain
import AuditRelay.Proofs.Payload

/-!
# Independence from timing

What a broker with given answers gets to see of patient producers does not depend on time. The
answer to the `i`-th call is laid down (`Scripted.verdict`), so the calls of a drained run can be
read off the answers: as long as the broker refuses, it is the same message that is sent again, and
each message ends with the first answer that is no refusal. Two runs in which the same logs are
accepted one after the other, with the same answers, therefore make the same calls, however large
their queues are, whenever the logs are brought, however long the answers and the pauses take, and
whatever happened while they connected.

The logs are accepted in the order in which they were brought, unless someone goes away and is slow
to come back to its place: whoever is given the next place may then be in the queue before
(`overtaken`).
-/

namespace AuditRelay

open History

/-! ### Answers that are laid down -/

namespace Scripted

/-- The answer to the `i`-th request to send. -/
def verdict (outcomes : List Outcome) (i : Nat) : Except Failure Nat :=
  match outcomes[i]? with
  | some o => (o.reply (i + 1)).answer
  | none => .ok (i + 1)

theorem next_answer (outcomes : List Outcome) (i : Nat) :
    (next (i + 1) (outcomes.drop i)).1.answer = verdict outcomes i := by
  rw [verdict, ← List.head?_drop]
  cases outcomes.drop i with
  | nil => rfl
  | cons o rest => rfl

/-- An outcome that takes no time. -/
def Outcome.undelayed : Outcome → Outcome
  | success _ sequence => success 0 sequence
  | failure _ reason => failure 0 reason
  | silence => silence

/-- The answers do not depend on the time they take. -/
theorem verdict_undelayed (outcomes : List Outcome) (i : Nat) :
    verdict (outcomes.map (·.undelayed)) i = verdict outcomes i := by
  rw [verdict, verdict, List.getElem?_map]
  cases outcomes[i]? with
  | none => rfl
  | some o => cases o <;> rfl

/-- More calls change nothing about the first answers. -/
theorem verdicts_grow (outcomes : List Outcome) {m n : Nat} (le : m ≤ n) :
    (List.range m).map (verdict outcomes) <+: (List.range n).map (verdict outcomes) := by
  have htake : List.range m = (List.range n).take m := by
    rw [List.take_range, Nat.min_eq_left le]
  rw [htake]
  exact (List.take_prefix ..).map _

/-- The first answers that are refusals are the outcomes that fail. -/
theorem countP_verdict (outcomes : List Outcome) (n : Nat) :
    ((List.range n).map (verdict outcomes)).countP (!·.isOk)
      = (outcomes.take n).countP (·.fails) := by
  induction n with
  | zero => rfl
  | succ n ih =>
    -- by induction on the number of answers, the last one apart
    rw [List.range_succ, List.map_append, List.countP_append, ih, List.take_add_one,
      List.countP_append]
    refine congrArg _ ?_
    rw [List.map_singleton, List.countP_singleton, verdict]
    cases outcomes[n]? with
    | none => rfl
    | some o => cases o <;> rfl

end Scripted

/-! ### Logs and messages up to ids and times -/

/-- The same log, with another id and another time. -/
def Log.Alike (l l' : Log) : Prop :=
  l' = { l with id := l'.id, time := l'.time }

/-- Filling in makes no difference between logs. -/
theorem Log.Alike.enrich {l l' : Log} (h : l.Alike l') (origin : Origin) (i i' : String) :
    (l.enrich origin i).Alike (l'.enrich origin i') := by
  rw [Log.Alike] at h
  rw [h]
  rfl

/-- The messages of logs that are alike, with their details in any order. The partition is the same
where none is chosen at random. -/
structure Message.Alike (p : Partitioning) (m m' : Message) : Prop where
  topic : m'.topic = m.topic
  partition : p = .single → m'.partition = m.partition
  payload : ∃ (l l' : Log) (order order' : Detail.Order), l.Alike l' ∧ m.id = l.id ∧
    m'.id = l'.id ∧ m.payload = (l.write order).toUTF8 ∧ m'.payload = (l'.write order').toUTF8

/-- Calls with the messages of logs that are alike, and with the same answer. -/
structure Call.Alike (p : Partitioning) (c c' : Call) : Prop where
  message : c.message.Alike p c'.message
  outcome : c'.outcome = c.outcome

/-- Two dispatchers that write to the same place. -/
structure Assignment.Alike {β β' : Type} (a : Assignment β) (a' : Assignment β') : Prop where
  topic : a'.settings.topic = a.settings.topic
  partitioning : a'.settings.partitioning = a.settings.partitioning
  origin : a'.settings.origin = a.settings.origin

section Alike

variable {β β' : Type} {a : Assignment β} {a' : Assignment β'}

theorem messageAt_alike (same : a.Alike a') (ids ids' : IdStream) (i : Nat) {l l' : Log}
    (alike : l.Alike l') :
    (messageAt a ids i l).Alike a.settings.partitioning (messageAt a' ids' i l') where
  topic := same.topic
  partition := by
    intro single
    have single' : a'.settings.partitioning = .single := same.partitioning.trans single
    change Message.partitionOf _ _ = Message.partitionOf _ _
    rw [single, single']
    rfl
  payload := by
    refine ⟨l.enrich a.settings.origin (ids.nth i), l'.enrich a.settings.origin (ids'.nth i),
      a.around.order i, a'.around.order i, alike.enrich _ _ _, rfl, rfl, rfl, ?_⟩
    rw [← same.origin]
    rfl

theorem messagesOf_alike (same : a.Alike a') (ids ids' : IdStream) {ls ls' : List Log}
    (alike : List.Forall₂ Log.Alike ls ls') :
    List.Forall₂ (Message.Alike a.settings.partitioning) (messagesOf a ids ls)
      (messagesOf a' ids' ls') := by
  obtain ⟨hlength, halike⟩ := List.forall₂_iff_get.mp alike
  refine List.forall₂_iff_get.mpr ⟨?_, fun i h h' => ?_⟩
  · rw [length_messagesOf, length_messagesOf, hlength]
  · -- messages are made of logs place by place
    rw [length_messagesOf] at h h'
    have hmessages := messageAt_alike same ids ids' i (halike i h h')
    simpa [messagesOf] using hmessages

end Alike

/-! ### Reading the answers -/

namespace Handover

/-- The answers to the calls of a message. -/
def answers (o : Handover) : List (Except Failure Nat) :=
  o.reasons.map .error ++ [.ok o.sequence]

theorem calls_eq_answers (o : Handover) :
    o.calls = o.answers.map fun r => ⟨o.message, some r⟩ := by
  rw [calls, answers, refusals, List.map_append, List.map_map]
  rfl

/-- The first answer that is no refusal ends a message. -/
theorem answers_eq {reasons reasons' : List Failure} {n n' : Nat}
    {rest rest' all : List (Except Failure Nat)}
    (h : reasons.map Except.error ++ Except.ok n :: rest = all)
    (h' : reasons'.map Except.error ++ Except.ok n' :: rest' = all) :
    reasons = reasons' ∧ n = n' ∧ rest = rest' := by
  induction reasons generalizing reasons' all with
  -- no refusal here, so none there: both begin with the success
  | nil =>
    cases reasons' with
    | nil =>
      obtain ⟨hn, hrest⟩ := List.cons.inj (h.trans h'.symm)
      exact ⟨rfl, Except.ok.inj hn, hrest⟩
    | cons e es => exact absurd (List.cons.inj (h.trans h'.symm)).1 (by simp)
  | cons e es ih =>
    cases reasons' with
    | nil => exact absurd (List.cons.inj (h.trans h'.symm)).1 (by simp)
    | cons e' es' =>
      obtain ⟨he, hes⟩ := List.cons.inj (h.trans h'.symm)
      obtain ⟨rfl, hn, hrest⟩ := ih hes rfl
      rw [Except.error.inj he]
      exact ⟨rfl, hn, hrest⟩

/-- **The answers tell the messages apart.** As many messages with answers that begin the same way
have the same answers, one by one. -/
theorem answers_unique {done done' : List Handover} {all : List (Except Failure Nat)}
    (length : done.length = done'.length) (h : done.flatMap (·.answers) <+: all)
    (h' : done'.flatMap (·.answers) <+: all) : done.map (·.answers) = done'.map (·.answers) := by
  induction done generalizing done' all with
  | nil =>
    obtain rfl : done' = [] := List.length_eq_zero_iff.mp length.symm
    rfl
  -- the answers to the first message are the same, and so is what comes behind them
  | cons o rest ih =>
    cases done' with
    | nil => exact absurd length (by simp)
    | cons o' rest' =>
      obtain ⟨tail, htail⟩ := h
      obtain ⟨tail', htail'⟩ := h'
      rw [List.flatMap_cons, answers, List.append_assoc, List.append_assoc] at htail htail'
      obtain ⟨hreasons, hsequence, hrest⟩ := answers_eq htail htail'
      have hhead : o.answers = o'.answers := by rw [answers, answers, hreasons, hsequence]
      have hmap := ih (Nat.succ.inj length) ⟨tail, rfl⟩ ⟨tail', hrest.symm⟩
      rw [List.map_cons, List.map_cons, hhead, hmap]

/-- The answers to the calls are the outcomes of the calls. -/
theorem outcome_calls (done : List Handover) :
    (done.flatMap (·.calls)).map (·.outcome) = (done.flatMap (·.answers)).map some := by
  rw [List.map_flatMap, List.map_flatMap]
  refine congrArg (done.flatMap ·) (funext fun o => ?_)
  rw [calls_eq_answers, List.map_map]
  rfl

/-- The calls that were refused are those with an answer that is a failure. -/
theorem countP_calls (done : List Handover) :
    (done.flatMap (·.calls)).countP (·.isRefused)
      = (done.flatMap (·.answers)).countP (!·.isOk) := by
  induction done with
  | nil => rfl
  | cons o rest ih =>
    rw [List.flatMap_cons, List.flatMap_cons, List.countP_append, List.countP_append, ih,
      calls_eq_answers, List.countP_map]
    refine congrArg (· + _) (List.countP_congr fun r _ => ?_)
    cases r <;> simp [Call.isRefused, Except.isOk, Except.toBool]

/-- Messages that are alike, with the same answers, make calls that are alike. -/
theorem calls_alike {p : Partitioning} {done done' : List Handover}
    (messages : List.Forall₂ (Message.Alike p) (done.map (·.message)) (done'.map (·.message)))
    (answers : done.map (·.answers) = done'.map (·.answers)) :
    List.Forall₂ (Call.Alike p) (done.flatMap (·.calls)) (done'.flatMap (·.calls)) := by
  induction done generalizing done' with
  | nil =>
    obtain rfl : done' = [] := List.map_eq_nil_iff.mp answers.symm
    exact .nil
  | cons o rest ih =>
    cases done' with
    | nil => exact absurd answers (by simp)
    | cons o' rest' =>
      obtain ⟨hfirst, hrest⟩ := List.cons.inj answers
      have hanswers : o'.answers = o.answers := hfirst.symm
      obtain ⟨hmessage, hmessages⟩ := List.forall₂_cons.mp messages
      have hcalls : List.Forall₂ (Call.Alike p) o.calls o'.calls := by
        rw [calls_eq_answers, calls_eq_answers, hanswers, List.forall₂_map_left_iff,
          List.forall₂_map_right_iff]
        exact List.forall₂_same.mpr fun r _ => ⟨hmessage, rfl⟩
      rw [List.flatMap_cons, List.flatMap_cons]
      exact List.rel_append hcalls (ih hmessages hrest)

end Handover

/-! ### Runs with given answers -/

/-- What is found in a list with one more element. -/
theorem getElem?_snoc {α : Type} {xs : List α} {x y : α} {i : Nat}
    (h : (xs ++ [x])[i]? = some y) : xs[i]? = some y ∨ i = xs.length ∧ y = x := by
  rw [List.getElem?_append] at h
  split at h
  · exact Or.inl h
  · next hle =>
    cases hi : i - xs.length with
    | zero =>
      rw [hi] at h
      exact Or.inr ⟨by omega, (Option.some.inj h).symm⟩
    | succ n =>
      rw [hi] at h
      exact absurd h (by simp)

namespace Dispatcher

variable {a : Assignment Scripted.Broker} {C : Nat} {ids : IdStream} {transport client : String}
  {sends : List Scripted.Outcome} {h seen : List Sight} {d d' : Dispatcher Scripted.Broker}

/-- Connecting leaves the answers to messages alone. -/
theorem Dial.laid {i : Nat} {t t' : Trial Unit} {w w' : Worker Scripted.Broker}
    (dial : Dial (Scripted.connector transport client) i w t t' w') :
    w'.broker.sends = w.broker.sends ∧ w'.broker.sent = w.broker.sent := by
  cases dial <;> exact ⟨rfl, rfl⟩

/-- **The broker answers as it is laid down.** -/
structure Laid (sends : List Scripted.Outcome) (h : List Sight) (d : Dispatcher Scripted.Broker) :
    Prop where
  left : d.worker.broker.sends = sends.drop (calls h).length
  sent : d.worker.broker.sent = (calls h).length
  answered : ∀ i c r, (calls h)[i]? = some c → c.outcome = some r → r = Scripted.verdict sends i
  /-- The answer that is on the way is that to the last call. -/
  awaited : ∀ l m made since reply, d.stage = .publishing l m (.asked made since reply) →
    reply.answer = Scripted.verdict sends ((calls h).length - 1)

/-- No call is made and none is answered. -/
theorem Laid.still (hl : Laid sends h d) (left : d'.worker.broker.sends = d.worker.broker.sends)
    (sent : d'.worker.broker.sent = d.worker.broker.sent)
    (stage : d'.stage = d.stage ∨
      ∀ l m made since reply, d'.stage ≠ .publishing l m (.asked made since reply))
    (silent : calls (h ++ seen) = calls h) : Laid sends (h ++ seen) d' where
  left := by rw [left, silent]; exact hl.left
  sent := by rw [sent, silent]; exact hl.sent
  answered := by rw [silent]; exact hl.answered
  awaited := by
    intro l m made since reply hstage
    rw [silent]
    rcases stage with same | other
    · exact hl.awaited l m made since reply (same.symm.trans hstage)
    · exact absurd hstage (other l m made since reply)

/-- A call takes the next answer. -/
theorem Laid.call (connector : a.connector = Scripted.connector transport client)
    (hl : Laid sends h d) {l : Log} {m : Message} {made : Nat}
    (broker : d'.worker.broker = (a.connector.send m d.worker.broker).2)
    (stage : d'.stage = .publishing l m
      (.asked made d.worker.now (a.connector.send m d.worker.broker).1)) :
    Laid sends (h ++ [.sent m]) d' := by
  have hcalls := calls_append_sent h m
  have hlength : (calls (h ++ [.sent m])).length = (calls h).length + 1 := by
    rw [hcalls, List.length_append, List.length_singleton]
  rw [connector] at broker stage
  refine ⟨?_, ?_, ?_, ?_⟩
  · rw [broker, hlength, ← List.drop_drop, ← hl.left]
    exact Scripted.next_rest ..
  · rw [broker, hlength, ← hl.sent]
    rfl
  · intro i c r hc hr
    rw [hcalls] at hc
    -- the new call has no answer yet
    rcases getElem?_snoc hc with hold | ⟨-, rfl⟩
    · exact hl.answered i c r hold hr
    · exact absurd hr (by simp)
  · intro l' m' made' since reply hstage
    rw [stage] at hstage
    obtain ⟨-, -, htrial⟩ := Stage.publishing.inj hstage
    obtain ⟨-, -, rfl⟩ := Trial.asked.inj htrial
    rw [hlength, Nat.add_sub_cancel, ← Scripted.next_answer, ← hl.left, ← hl.sent]
    rfl

/-- An answer arrives. -/
theorem Laid.answer {done : List Handover} {rest : List Call} (hl : Laid sends h d)
    (hp : Progress a ids h d done rest) {l : Log} {m : Message} {made since : Nat}
    {reply : Reply Nat} {r : Except Failure Nat}
    (stage : d.stage = .publishing l m (.asked made since reply)) (answer : reply.answer = r)
    (left : d'.worker.broker.sends = d.worker.broker.sends)
    (sent : d'.worker.broker.sent = d.worker.broker.sent)
    (now : ∀ l m made since reply, d'.stage ≠ .publishing l m (.asked made since reply)) :
    Laid sends (h ++ [.answered r]) d' := by
  obtain ⟨reasons, -, -, hcalls⟩ := hp.calls_of_asked stage
  have hcalls' := calls_append_answered hcalls r
  have hlength : (calls (h ++ [.answered r])).length = (calls h).length := by
    rw [hcalls', hcalls]
    simp only [List.length_append, List.length_singleton]
  have hlast : (calls h).length - 1 = (done.flatMap (·.calls) ++ refusals m reasons).length := by
    rw [hcalls, List.length_append, List.length_singleton, Nat.add_sub_cancel]
  refine ⟨?_, ?_, ?_, fun l m made since reply hstage => absurd hstage (now l m made since reply)⟩
  · rw [left, hlength]
    exact hl.left
  · rw [sent, hlength]
    exact hl.sent
  · intro i c r' hc hr'
    rw [hcalls'] at hc
    -- the answer that arrives belongs to the last call, and is the one laid down for it
    rcases getElem?_snoc hc with hold | ⟨rfl, rfl⟩
    · refine hl.answered i c r' ?_ hr'
      rw [hcalls, List.getElem?_append_left (List.getElem?_eq_some_iff.mp hold).1]
      exact hold
    · rw [← hlast, ← hl.awaited l m made since reply stage, answer]
      exact (Option.some.inj hr').symm

theorem Laid.turn (connector : a.connector = Scripted.connector transport client)
    {done : List Handover} {rest : List Call} (hl : Laid sends h d)
    (hp : Progress a ids h d done rest) (turn : Turn a d seen d') : Laid sends (h ++ seen) d' := by
  cases turn with
  | connecting stage dial goesOn =>
    rw [connector] at dial
    obtain ⟨hleft, hsent⟩ := (dial_of_dial? dial).laid
    exact hl.still hleft hsent (Or.inr (by simp)) (calls_append_of_silent (by simp))
  | connected stage dial =>
    rw [connector] at dial
    obtain ⟨hleft, hsent⟩ := (dial_of_dial? dial).laid
    exact hl.still hleft hsent (Or.inr (by simp [tell])) (calls_append_of_silent (by simp))
  | took stage items =>
    exact hl.still rfl rfl (Or.inr (by simp [tell, resolve, Trial.start]))
      (calls_append_served h d.queue)
  | sent stage => exact hl.call connector rfl rfl
  | acknowledged stage arrived answer =>
    exact hl.answer hp stage answer rfl rfl (by simp [tell])
  | refused stage arrived answer => exact hl.answer hp stage answer rfl rfl (by simp)
  | woke stage due =>
    exact hl.still rfl rfl (Or.inr (by simp)) (calls_append_of_silent (by simp))

theorem Laid.step (connector : a.connector = Scripted.connector transport client)
    {done : List Handover} {rest : List Call} (hl : Laid sends h d)
    (hp : Progress a ids h d done rest) (step : Step a h d seen d') :
    Laid sends (h ++ seen) d' := by
  -- only turns concern the broker
  rcases step.turn_or_silent with turn | hsilent
  · exact hl.turn connector hp turn
  · cases step with
    | start stage isOpen =>
      exact hl.still rfl rfl (Or.inr (by simp [Dispatcher.start, tell])) hsilent
    | turn turn => exact hl.turn connector hp turn
    | ending silent ending =>
      cases ending with
      | @unconnected t w stage cancelled link =>
        have hbroker : w.broker = d.worker.broker := by rw [link]
        exact hl.still (congrArg _ hbroker) (congrArg _ hbroker)
          (Or.inr (by simp [stop, closeQueue, resolve])) hsilent
      | exhausted stage left drained =>
        exact hl.still rfl rfl (Or.inr (by simp [finish, stop, closeQueue, resolve])) hsilent
      | resigned stage cancelled =>
        exact hl.still rfl rfl (Or.inr (by simp [finish, stop, closeQueue, resolve])) hsilent
    | _ => exact hl.still rfl rfl (Or.inl rfl) hsilent

theorem Run.laid {connects : List Scripted.Outcome} {q : Queue Log} (hq : Queue.new? C = some q)
    (connector : a.connector = Scripted.connector transport client)
    (run : Run a (.new (.new connects sends) q ids) h d) : Laid sends h d := by
  induction run with
  | begin =>
    exact ⟨rfl, rfl, fun i c r hc => absurd hc (by simp [calls]), by simp [Dispatcher.new]⟩
  | @move h seen m d d' run proper made ih =>
    obtain ⟨done, rest, hp⟩ := run.progress hq
    exact ih.step connector hp (step_of_step? proper made)

/-- The answers to the calls of a run in which none is left open. -/
theorem Laid.answers_eq {done : List Handover} (hl : Laid sends h d)
    (hcalls : calls h = done.flatMap (·.calls)) :
    done.flatMap (·.answers) = (List.range (calls h).length).map (Scripted.verdict sends) := by
  have houtcomes : (calls h).map (·.outcome) = (done.flatMap (·.answers)).map some := by
    rw [hcalls, Handover.outcome_calls]
  have hlength : (done.flatMap (·.answers)).length = (calls h).length := by
    have := congrArg List.length houtcomes
    rw [List.length_map, List.length_map] at this
    exact this.symm
  -- place by place: every call is answered, and as it is laid down
  refine List.ext_getElem? fun i => ?_
  rw [List.getElem?_map]
  by_cases hi : i < (calls h).length
  · rw [List.getElem?_range hi, Option.map_some]
    have hc : (calls h)[i]? = some (calls h)[i] := List.getElem?_eq_getElem hi
    obtain ⟨r, hr⟩ : ∃ r, (done.flatMap (·.answers))[i]? = some r :=
      ⟨_, List.getElem?_eq_getElem (hlength ▸ hi)⟩
    have hboth := congrArg (·[i]?) houtcomes
    simp only [List.getElem?_map, hc, hr, Option.map_some] at hboth
    rw [hr, hl.answered i _ _ hc (Option.some.inj hboth)]
  · rw [List.getElem?_eq_none (by omega), List.getElem?_eq_none (by simpa using hi)]
    rfl

/-! ### Patient producers and a broker that answers -/

/-- **A run in which nothing can go wrong for good**: connecting succeeds after some failures, every
call is answered, every producer waits until its log is in the queue, and nobody tells the
dispatcher to give up. -/
structure Serving (a : Assignment Scripted.Broker) (connects sends : List Scripted.Outcome)
    (ids : IdStream) (h : List Sight) (d : Dispatcher Scripted.Broker) : Prop where
  connector : ∃ transport client, a.connector = Scripted.connector transport client
  arrives : Scripted.Broker.Arrives false (.new connects sends)
  run : ∃ C q, Queue.new? C = some q ∧ Run a (.new (.new connects sends) q ids) h d
  patient : Patient h
  uncancelled : d.worker.cancelled = false

/-- **What has come of such a run** when the dispatcher has ended. -/
structure Drained (a : Assignment Scripted.Broker) (sends : List Scripted.Outcome)
    (ids : IdStream) (h : List Sight) (d : Dispatcher Scripted.Broker) : Prop where
  served : Served a ids h d
  /-- Every producer was told that all is well. -/
  answered : ∀ t ∈ askers h, ∀ p : Pipeline Scripted.Broker, p.dispatcher = d →
    p.answer? t = some (.ok ())
  /-- The calls are those that the worker has noted. -/
  noted : d.worker.sends.reverse.map (·.2) = (calls h).map (·.message)
  /-- It was tried again as often as an answer that was used is a failure. -/
  retries : d.worker.stats.retries = (sends.take (calls h).length).countP (·.fails)
  /-- The logs that were acknowledged are those that were brought. -/
  perm : (accepted h).Perm (asked h)
  /-- Places were given in the order in which the logs were brought. -/
  places : placed h = askers h
  /-- The logs of those who stay were accepted in this order. -/
  stayers : ((accepted h).filter fun e => e.1 ∉ goers h).Sublist (asked h)
  /-- All logs were, if everyone entered in the order of the places. -/
  inOrder : entrants h = placed h → accepted h = asked h
  /-- All logs were, if everyone stayed. -/
  undisturbed : goers h = [] → accepted h = asked h

section Serving

variable {connects : List Scripted.Outcome} {time : Nat}

/-- What is asked of brokers holds of the one of such a run. -/
theorem Serving.steady (serving : Serving a connects sends ids h d) :
    a.connector.Steady Scripted.Broker.Arrives := by
  obtain ⟨transport, client, hconnector⟩ := serving.connector
  rw [hconnector]
  exact Scripted.steady transport client

/-- A run that is on its way to the end goes on as it was. -/
theorem Serving.of_finishing (serving : Serving a connects sends ids h d) {C : Nat} {q : Queue Log}
    (hq : Queue.new? C = some q) {entries : List (Nat × Log)} {h' : List Sight}
    (hf : Finishing a (.new (.new connects sends) q ids) entries h' d') :
    Serving a connects sends ids h' d' :=
  ⟨serving.connector, serving.arrives, ⟨C, q, hq, hf.run⟩, hf.patient, hf.uncancelled⟩

/-- The dispatcher ends when nobody is left but those who wait, whatever they do then. -/
theorem Serving.ends (serving : Serving a connects sends ids h d) (left : d.producers = false)
    (started : d.stage ≠ .dormant) :
    Inevitable a (fun h' d' => asked h' = asked h ∧ Serving a connects sends ids h' d' ∧
      ∃ time, d'.stage = .stopped time) (d.cost a) h d := by
  obtain ⟨C, q, hq, run⟩ := serving.run
  have hf : Finishing a (.new (.new connects sends) q ids) (asked h) h d :=
    ⟨run, rfl, serving.patient, serving.uncancelled, left, started⟩
  refine (hf.ends serving.steady serving.arrives hq (Nat.le_refl _)).mono ?_
  rintro h' d' ⟨hf', stopped⟩
  exact ⟨hf'.asked_eq, serving.of_finishing hq hf', stopped⟩

/-- The clock leads to the end if everyone stays who still waits. -/
theorem Serving.finishes (serving : Serving a connects sends ids h d) (left : d.producers = false)
    (started : d.stage ≠ .dormant) (gathered : Gathered d) :
    ∃ seen time, Own seen ∧ asked (h ++ seen) = asked h ∧
      Serving a connects sends ids (h ++ seen) (d.finished a) ∧
      (d.finished a).stage = .stopped time := by
  obtain ⟨C, q, hq, run⟩ := serving.run
  have hf : Finishing a (.new (.new connects sends) q ids) (asked h) h d :=
    ⟨run, rfl, serving.patient, serving.uncancelled, left, started⟩
  obtain ⟨seen, time, own, hf', stopped⟩ :=
    hf.drained serving.steady serving.arrives hq gathered
  exact ⟨seen, time, own, hf'.asked_eq, serving.of_finishing hq hf', stopped⟩

/-- What patient producers are left with. -/
theorem Serving.served (serving : Serving a connects sends ids h d)
    (stopped : d.stage = .stopped time) : Served a ids h d := by
  obtain ⟨C, q, hq, run⟩ := serving.run
  exact run.served hq serving.patient serving.uncancelled stopped

/-- The answers of a run whose dispatcher has ended, message by message. -/
theorem Serving.done (serving : Serving a connects sends ids h d)
    (stopped : d.stage = .stopped time) :
    ∃ done : List Handover, calls h = done.flatMap (·.calls) ∧
      done.map (·.message) = messagesOf a ids (logs (accepted h)) ∧
      done.flatMap (·.answers)
        = (List.range (calls h).length).map (Scripted.verdict sends) := by
  obtain ⟨transport, client, hconnector⟩ := serving.connector
  obtain ⟨C, q, hq, run⟩ := serving.run
  obtain ⟨done, hcalls, hmessages⟩ := (serving.served stopped).calls
  exact ⟨done, hcalls, hmessages, (run.laid hq hconnector).answers_eq hcalls⟩

theorem Serving.drained (serving : Serving a connects sends ids h d)
    (stopped : d.stage = .stopped time) : Drained a sends ids h d := by
  have hserved := serving.served stopped
  have hcomplete := hserved.complete
  obtain ⟨C, q, hq, run⟩ := serving.run
  have ha : Attended h d := run.attended hq
  obtain ⟨_, _, hp⟩ := run.progress hq
  obtain ⟨done, hcalls, -, hanswers⟩ := serving.done stopped
  exact {
    served := hserved
    answered := by
      intro t ht p hd
      obtain ⟨e, he, rfl⟩ := List.mem_map.mp ht
      have hdecision : (e.1, true) ∈ decisions h := by
        rw [← ha.arrivals, hserved.arrivals]
        exact List.mem_map.mpr ⟨e, hcomplete.perm.mem_iff.mpr he, rfl⟩
      exact ha.answer? hd hdecision
    noted := hp.sends
    retries := by
      rw [hserved.retries, ← Scripted.countP_verdict, ← hanswers]
      exact (congrArg _ hcalls).trans (Handover.countP_calls done)
    perm := hcomplete.perm
    places := hcomplete.placed_eq
    stayers := hcomplete.stayers
    inOrder := hcomplete.inOrder
    undisturbed := hcomplete.inOrder_of_stayers }

/-- Two such runs in which the same logs are accepted, with the same answers, make the same
calls. -/
theorem Serving.calls_alike {a' : Assignment Scripted.Broker}
    {connects' sends' : List Scripted.Outcome} {ids' : IdStream} {h' : List Sight} {time' : Nat}
    (serving : Serving a connects sends ids h d) (stopped : d.stage = .stopped time)
    (serving' : Serving a' connects' sends' ids' h' d') (stopped' : d'.stage = .stopped time')
    (same : a.Alike a') (answers : ∀ i, Scripted.verdict sends' i = Scripted.verdict sends i)
    (alike : List.Forall₂ Log.Alike (logs (accepted h)) (logs (accepted h'))) :
    List.Forall₂ (Call.Alike a.settings.partitioning) (calls h) (calls h') := by
  obtain ⟨done, hcalls, hmessages, hanswers⟩ := serving.done stopped
  obtain ⟨done', hcalls', hmessages', hanswers'⟩ := serving'.done stopped'
  have halike := messagesOf_alike same ids ids' alike
  rw [← hmessages, ← hmessages'] at halike
  -- as many messages as logs, in both runs
  have hlength : done.length = done'.length := by
    have := halike.length_eq
    rwa [List.length_map, List.length_map] at this
  rw [funext answers] at hanswers'
  -- both runs have got the first answers of one and the same list
  let all := (List.range (max (calls h).length (calls h').length)).map (Scripted.verdict sends)
  have hfirst : done.flatMap (·.answers) <+: all := by
    rw [hanswers]
    exact Scripted.verdicts_grow sends (Nat.le_max_left ..)
  have hfirst' : done'.flatMap (·.answers) <+: all := by
    rw [hanswers']
    exact Scripted.verdicts_grow sends (Nat.le_max_right ..)
  rw [hcalls, hcalls']
  exact Handover.calls_alike halike (Handover.answers_unique hlength hfirst hfirst')

/-- **Everything is delivered, whatever the timing.** In a run of patient producers whose broker
answers, the dispatcher comes to its end once nobody is left but those who wait, whatever they do
then, and it needs nobody else if they all stay. Whenever it has ended, every log was acknowledged,
in the order in which the queue accepted them. Two such runs in which the same logs were accepted
one after the other, with the same answers, make the same calls, up to ids, times and the order of
details. -/
theorem delivered_whatever_the_timing (serving : Serving a connects sends ids h d) :
    (d.producers = false → d.stage ≠ .dormant →
      Inevitable a (fun h' d' => asked h' = asked h ∧ Serving a connects sends ids h' d' ∧
        ∃ time, d'.stage = .stopped time) (d.cost a) h d ∧
      (Gathered d → ∃ seen time, Own seen ∧ asked (h ++ seen) = asked h ∧
        Serving a connects sends ids (h ++ seen) (d.finished a) ∧
        (d.finished a).stage = .stopped time)) ∧
    ∀ time, d.stage = .stopped time →
      Drained a sends ids h d ∧
      ∀ (a' : Assignment Scripted.Broker) (connects' sends' : List Scripted.Outcome)
        (ids' : IdStream) (h' : List Sight) (d' : Dispatcher Scripted.Broker) (time' : Nat),
        Serving a' connects' sends' ids' h' d' → d'.stage = .stopped time' → a.Alike a' →
        (∀ i, Scripted.verdict sends' i = Scripted.verdict sends i) →
        List.Forall₂ Log.Alike (logs (accepted h)) (logs (accepted h')) →
        List.Forall₂ (Call.Alike a.settings.partitioning) (calls h) (calls h') := by
  refine ⟨fun left started => ?_, fun time stopped => ?_⟩
  · exact ⟨serving.ends left started, fun gathered => serving.finishes left started gathered⟩
  · refine ⟨serving.drained stopped, ?_⟩
    intro a' connects' sends' ids' h' d' time' serving' stopped' same answers alike
    exact serving.calls_alike stopped serving' stopped' same answers alike

end Serving

namespace Rehearsal

/-- Another dispatcher, which hardly waits between two calls. -/
def hasty : Assignment Scripted.Broker :=
  { assignment with settings := { assignment.settings with interval := 1 } }

/-- Some turns, with pauses between them. -/
def turns (count : Nat) : List Move :=
  (List.range count).flatMap fun i => [.proceed, .wait (100000 * (i + 1))]

/-- Two producers wait for the only place before the dispatcher is started. -/
def early : List Sight × Dispatcher Scripted.Broker :=
  play assignment (.new (.new [] [.failure 0 (.connection "down")]) ⟨1, [], [], [], true⟩ .counted)
    (.submit 0 true default :: .submit 1 true default :: .leave :: .start :: turns 14)

/-- The same logs are brought later, by producers that go away. The second one comes back when it
has a place, and the answers are slow. -/
def late : List Sight × Dispatcher Scripted.Broker :=
  play hasty
    (.new (.new [.failure 9 (.connection "refused")] [.failure 7 (.connection "down")])
      ⟨1, [], [], [], true⟩ (IdSource.stream ⟨5⟩))
    (.start :: .submit 3 false { (default : Log) with time := 1 } :: .wait 5 ::
      .submit 2 false { (default : Log) with time := 6 } :: .leave :: turns 11 ++
      .comeBack 2 { (default : Log) with time := 6 } :: turns 4)

theorem early_serving : Serving assignment [] [.failure 0 (.connection "down")] .counted early.1
    early.2 where
  connector := ⟨"nats", "rehearsal", rfl⟩
  arrives := ⟨fun _ => rfl, by decide⟩
  run := ⟨1, _, rfl, run_play ..⟩
  patient := by
    have hall : early.1.all (·.isPatient) = true := rfl
    exact List.all_eq_true.mp hall
  uncancelled := rfl

theorem late_serving : Serving hasty [.failure 9 (.connection "refused")]
    [.failure 7 (.connection "down")] (IdSource.stream ⟨5⟩) late.1 late.2 where
  connector := ⟨"nats", "rehearsal", rfl⟩
  arrives := ⟨fun _ => rfl, by decide⟩
  run := ⟨1, _, rfl, run_play ..⟩
  patient := by
    have hall : late.1.all (·.isPatient) = true := rfl
    exact List.all_eq_true.mp hall
  uncancelled := rfl

end Rehearsal

theorem rehearsal_whatever_the_timing :
    ((calls Rehearsal.early.1).map (·.isAcked), Rehearsal.early.2.worker.stats.published,
        Rehearsal.early.2.worker.stats.retries) = ([false, true, true], 2, 1) ∧
      goers Rehearsal.late.1 = [3, 2] ∧
      Drained Rehearsal.assignment [.failure 0 (.connection "down")] .counted Rehearsal.early.1
        Rehearsal.early.2 ∧
      List.Forall₂ (Call.Alike .single) (calls Rehearsal.early.1) (calls Rehearsal.late.1) := by
  have hboth := (delivered_whatever_the_timing Rehearsal.early_serving).2 _ rfl
  refine ⟨rfl, rfl, hboth.1, ?_⟩
  refine hboth.2 Rehearsal.hasty _ _ _ _ _ _ Rehearsal.late_serving rfl ⟨rfl, rfl, rfl⟩
    (fun i => ?_) (.cons rfl (.cons rfl .nil))
  -- the answers differ in their delays only
  rw [← Scripted.verdict_undelayed, ← Scripted.verdict_undelayed [.failure 0 _]]
  rfl

/-! ### Overtaking -/

namespace Rehearsal

/-- A log that tells its name. -/
def called (name : String) : Log :=
  { (default : Log) with operation := name }

/-- Two logs fill the queue. Then `b` is brought by a producer that goes away, and `c` by one that
stays. Both are given places when the first two logs are taken, but the first of the two comes back
only when everything else is published. -/
def overtaking : List Sight × Dispatcher Scripted.Broker :=
  play assignment (.new (.new [] []) ⟨2, [], [], [], true⟩ .counted)
    (.submit 0 true (called "a1") :: .submit 1 true (called "a2") :: .submit 2 false (called "b") ::
      .submit 3 true (called "c") :: .leave :: .start :: turns 11 ++
      .comeBack 2 (called "b") :: turns 4)

theorem overtaking_serving : Serving assignment [] [] .counted overtaking.1 overtaking.2 where
  connector := ⟨"nats", "rehearsal", rfl⟩
  arrives := ⟨fun _ => rfl, by decide⟩
  run := ⟨2, _, rfl, run_play ..⟩
  patient := by
    have hall : overtaking.1.all (·.isPatient) = true := rfl
    exact List.all_eq_true.mp hall
  uncancelled := rfl

end Rehearsal

/-- **Who has gone away may be overtaken.** Here nothing goes wrong for good and the dispatcher has
ended, but the messages were not acknowledged in the order in which the logs were brought. -/
theorem overtaken :
    Serving Rehearsal.assignment [] [] .counted Rehearsal.overtaking.1 Rehearsal.overtaking.2 ∧
      (∃ time, Rehearsal.overtaking.2.stage = .stopped time) ∧
      acked Rehearsal.overtaking.1
        ≠ messagesOf Rehearsal.assignment .counted (logs (asked Rehearsal.overtaking.1)) := by
  have hstopped : ∃ time, Rehearsal.overtaking.2.stage = .stopped time := ⟨_, rfl⟩
  refine ⟨Rehearsal.overtaking_serving, hstopped, fun inOrder => ?_⟩
  obtain ⟨time, stopped⟩ := hstopped
  have hacked := (Rehearsal.overtaking_serving.served stopped).acked
  -- the third message is about `c`, and the third log that was brought is `b`
  have haccepted : (logs (accepted Rehearsal.overtaking.1))[2]? = some (Rehearsal.called "c") := rfl
  have hasked : (logs (asked Rehearsal.overtaking.1))[2]? = some (Rehearsal.called "b") := rfl
  have hthird := congrArg (·[2]?) (hacked.symm.trans inOrder)
  simp only [messagesOf, List.getElem?_mapIdx, haccepted, hasked, Option.map_some,
    Option.some.injEq] at hthird
  have hread := congrArg Message.log? hthird
  rw [messageAt, messageAt, Assignment.message, Assignment.message, Message.log?_ofLog,
    Message.log?_ofLog] at hread
  have hnames := congrArg Log.operation (Option.some.inj hread)
  exact absurd hnames (by decide)

end Dispatcher

end AuditRelay
