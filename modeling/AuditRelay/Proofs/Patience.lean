import AuditRelay.Proofs.Desk
import AuditRelay.Proofs.InTurn
import Mathlib.Data.List.Perm.Subperm

/-!
# Patient producers

Producers are patient in a run if everyone who brings a log waits for a place, in whatever way, and
does not give up: it stays until there is one, or goes away and comes back for it. Nobody is turned
away then while the queue has its receiver.

A dispatcher that ends without having been told to give up ends because nobody is left and the queue
is empty (`Concluded`). At that moment everything is done (`Run.served`): every log was accepted,
taken and acknowledged, in the order in which the queue accepted them.

Places are given in the order in which they were asked for, so this is the order in which the logs
were brought, as long as everyone enters in the order of the places. Whoever stays does. Whoever has
gone away may be overtaken before it comes back.
-/

namespace AuditRelay

open History

/-- Whether a producer waits and does not give up. -/
def Sight.isPatient : Sight → Bool
  | .offered .. => false
  | .withdrawn _ => false
  | _ => true

/-- Items with different keys stand in the order of their keys. -/
theorem sublist_of_map {α κ : Type} {key : α → κ} {xs ys : List α} (nodup : (ys.map key).Nodup)
    (subset : xs ⊆ ys) (keys : (xs.map key).Sublist (ys.map key)) : xs.Sublist ys := by
  obtain ⟨zs, hsublist, hkeys⟩ := List.sublist_map_iff.mp keys
  -- an item is determined by its key, so the part of `ys` with these keys is `xs`
  have hsame : xs = zs := by
    have hlength : xs.length = zs.length := by
      have := congrArg List.length hkeys
      rwa [List.length_map, List.length_map] at this
    refine List.ext_getElem hlength fun i hi hi' => ?_
    refine List.inj_on_of_nodup_map nodup (subset (List.getElem_mem hi))
      (hsublist.subset (List.getElem_mem hi')) ?_
    have := congrArg (·[i]?) hkeys
    simpa [List.getElem?_eq_getElem hi, List.getElem?_eq_getElem hi'] using this
  exact hsame ▸ hsublist

namespace History

/-- Everyone who brings a log waits until it is in the queue. -/
def Patient (h : List Sight) : Prop :=
  ∀ s ∈ h, s.isPatient = true

variable {h seen : List Sight}

theorem Patient.left (p : Patient (h ++ seen)) : Patient h :=
  fun s hs => p s (List.mem_append_left _ hs)

theorem Patient.right (p : Patient (h ++ seen)) : Patient seen :=
  fun s hs => p s (List.mem_append_right _ hs)

theorem Patient.append (p : Patient h) (p' : Patient seen) : Patient (h ++ seen) :=
  fun s hs => (List.mem_append.mp hs).elim (p s) (p' s)

/-- The dispatcher tries nobody's patience. -/
theorem Own.patient (own : Own seen) : Patient seen := by
  intro s hs
  have hown := own s hs
  cases s with
  | offered t l r => exact absurd hown (by simp [Sight.isOwn])
  | withdrawn t => exact absurd hown (by simp [Sight.isOwn])
  | _ => rfl

/-- The dispatcher asks for no place. -/
theorem Own.asked_eq_nil (own : Own seen) : asked seen = [] := by
  refine List.filterMap_eq_nil_iff.mpr fun s hs => ?_
  have hown := own s hs
  cases s with
  | asked t l stays => exact absurd hown (by simp [Sight.isOwn])
  | _ => rfl

/-- Patient producers use their tickets to ask for places. -/
theorem Patient.tickets_eq (p : Patient h) : tickets h = askers h := by
  rw [tickets, askers, asked, List.map_filterMap]
  refine List.filterMap_congr fun s hs => ?_
  cases s with
  | offered t l r => exact absurd (p _ hs) (by simp [Sight.isPatient])
  | _ => rfl

/-- Nobody has given up. -/
theorem Patient.not_withdrawn (p : Patient h) (t : Nat) : .withdrawn t ∉ h :=
  fun hs => absurd (p _ hs) (by simp [Sight.isPatient])

/-- What is in the queue was asked for. -/
theorem Patient.accepted_subset (p : Patient h) (o : Orderly h) : accepted h ⊆ asked h := by
  induction o with
  | nil => exact List.nil_subset _
  | @snoc h s before allowed ih =>
    rw [accepted_append, asked_append]
    intro e he
    rcases List.mem_append.mp he with hold | hnew
    · exact List.mem_append_left _ (ih p.left hold)
    · cases s with
      | offered t l r =>
        exact absurd (p.right _ (List.mem_singleton_self _)) (by simp [Sight.isPatient])
      | admitted t l =>
        obtain rfl := List.mem_singleton.mp hnew
        exact List.mem_append_left _ allowed.2.1
      | _ => exact absurd hnew List.not_mem_nil

/-- Where nobody is turned away, everyone who is answered is told that the log is accepted. -/
theorem Patient.decisions_eq (p : Patient h) (welcome : ∀ t, (t, false) ∉ decisions h) :
    decisions h = (accepted h).map fun e => (e.1, true) := by
  rw [accepted, decisions, List.map_filterMap]
  refine List.filterMap_congr fun s hs => ?_
  cases s with
  | offered t l r => exact absurd (p _ hs) (by simp [Sight.isPatient])
  | turnedAway t =>
    have hrefused : (t, false) ∈ decisions h := List.mem_filterMap.mpr ⟨_, hs, rfl⟩
    exact absurd hrefused (welcome t)
  | _ => rfl

end History

/-! ### When nobody is left -/

/-- **Everyone is served**: the log of everyone who has asked for a place is in the queue or was
there. -/
structure History.Complete (h : List Sight) : Prop where
  orderly : Orderly h
  patient : Patient h
  welcome : ∀ t, (t, false) ∉ decisions h
  nobody : (Desk.after h).present = []

namespace History.Complete

variable {h : List Sight}

theorem nodup_askers (s : Complete h) : (askers h).Nodup :=
  s.patient.tickets_eq ▸ s.orderly.nodup_tickets

/-- The logs in the queue are those for which a place was asked. -/
theorem perm (s : Complete h) : (accepted h).Perm (asked h) := by
  have hentrants : (entrants h).Nodup := s.orderly.nodup_entrants
  refine (List.perm_ext_iff_of_nodup hentrants.of_map s.nodup_askers.of_map).mpr fun e => ?_
  refine ⟨fun he => s.patient.accepted_subset s.orderly he, fun he => ?_⟩
  -- whoever has asked was answered, and the answer was that the log is accepted
  obtain ⟨t, l⟩ := e
  have hasked : t ∈ askers h := List.mem_map_of_mem he
  have hdecided : t ∈ decided h := by
    rcases s.orderly.accounted hasked with hd | hp | hw
    · exact hd
    · exact absurd (s.nobody ▸ hp) List.not_mem_nil
    · exact absurd hw (s.patient.not_withdrawn t)
  rw [decided, s.patient.decisions_eq s.welcome, List.map_map] at hdecided
  obtain ⟨⟨t', l'⟩, hmem, rfl⟩ := List.mem_map.mp hdecided
  -- and it is the log that was brought with the ticket
  obtain rfl : l' = l := by
    have hsame := List.inj_on_of_nodup_map s.nodup_askers
      (s.patient.accepted_subset s.orderly hmem) he rfl
    exact congrArg Prod.snd hsame
  exact hmem

/-- **Places were given in the order in which they were asked for**, to everyone. -/
theorem placed_eq (s : Complete h) : placed h = askers h := by
  have horder : (placed h).Sublist (askers h) := by
    rw [← s.patient.tickets_eq]
    exact (List.sublist_append_left _ _).trans s.orderly.order
  refine horder.eq_of_length_le ?_
  -- whoever is in the queue was given a place, and everyone is
  have hlength : (askers h).length = (entrants h).length := by
    rw [askers, entrants, List.length_map, List.length_map, s.perm.length_eq]
  rw [hlength]
  exact (s.orderly.nodup_entrants.subperm s.orderly.entrants_subset_placed).length_le

/-- **Whoever stays is not overtaken.** The logs of those who stay are accepted in the order in
which they were brought. -/
theorem stayers (s : Complete h) :
    ((accepted h).filter fun e => e.1 ∉ goers h).Sublist (asked h) := by
  refine sublist_of_map s.nodup_askers ?_ ?_
  · exact fun e he => s.patient.accepted_subset s.orderly (List.mem_filter.mp he).1
  · have hprompt := s.orderly.prompt
    rw [s.placed_eq, entrants, List.filter_map] at hprompt
    exact hprompt

/-- All logs are accepted in the order in which they were brought if everyone enters in the order of
the places. -/
theorem inOrder (s : Complete h) (prompt : entrants h = placed h) : accepted h = asked h := by
  refine (sublist_of_map s.nodup_askers (s.patient.accepted_subset s.orderly) ?_).eq_of_length
    s.perm.length_eq
  rw [← askers, ← s.placed_eq, ← prompt]
  exact List.Sublist.refl _

/-- So they are if everyone stays. -/
theorem inOrder_of_stayers (s : Complete h) (stay : goers h = []) : accepted h = asked h := by
  have hstayers := s.stayers
  simp only [stay, List.not_mem_nil, not_false_eq_true, decide_true, List.filter_true] at hstayers
  exact hstayers.eq_of_length s.perm.length_eq

end History.Complete

namespace Dispatcher

variable {β : Type} {a : Assignment β} {C : Nat} {ids : IdStream} {h seen : List Sight}
  {d d' : Dispatcher β}

/-- The dispatcher does not give the signal to itself, and it does not bring logs. -/
theorem Turn.frame (turn : Turn a d seen d') :
    d'.worker.cancelled = d.worker.cancelled ∧ d'.producers = d.producers := by
  cases turn with
  | connecting stage dial goesOn => exact ⟨(dial_of_dial? dial).frame.2.2.1, rfl⟩
  | connected stage dial => exact ⟨(dial_of_dial? dial).frame.2.2.1, rfl⟩
  | took stage items => exact ⟨rfl, rfl⟩
  | sent stage => exact ⟨rfl, rfl⟩
  | acknowledged stage arrived answer => exact ⟨rfl, rfl⟩
  | refused stage arrived answer => exact ⟨rfl, rfl⟩
  | woke stage due => exact ⟨rfl, rfl⟩

theorem Ending.frame (ending : Ending d d') :
    d'.worker.cancelled = d.worker.cancelled ∧ d'.producers = d.producers := by
  cases ending with
  | @unconnected t w stage cancelled link =>
    have hw : w.cancelled = d.worker.cancelled := by rw [link]
    exact ⟨hw, rfl⟩
  | exhausted stage left drained => exact ⟨rfl, rfl⟩
  | resigned stage cancelled => exact ⟨rfl, rfl⟩

/-- The signal to give up is never taken back. -/
theorem Step.cancelled_of (step : Step a h d seen d') (uncancelled : d'.worker.cancelled = false) :
    d.worker.cancelled = false := by
  cases step with
  | cancel => exact absurd uncancelled (by simp [Dispatcher.cancel])
  | turn turn => exact turn.frame.1 ▸ uncancelled
  | ending silent ending => exact ending.frame.1 ▸ uncancelled
  | _ => exact uncancelled

/-! ### When the dispatcher has ended -/

/-- **Everything is done.** The dispatcher has ended because nobody is left and nothing will come
out of the queue any more. -/
structure Concluded (h : List Sight) (d : Dispatcher β) : Prop where
  left : d.producers = false
  empty : d.queue.kept = [] ∧ d.queue.waiting = []
  welcome : ∀ t, (t, false) ∉ decisions h
  taken_eq : d.taken = (accepted h).length
  /-- The last that it tells is that the queue is closed, and that it has ended. -/
  events : ∃ before, d.worker.events = halted d.worker.stats :: exhausted :: before

/-- Nothing happens any more. -/
theorem Concluded.still (hd : Concluded h d) (left : d'.producers = false)
    (queue : d'.queue = d.queue) (taken : d'.taken = d.taken)
    (events : d'.worker.events = d.worker.events) (stats : d'.worker.stats = d.worker.stats) :
    Concluded (h ++ []) d' := by
  rw [List.append_nil]
  refine ⟨left, queue ▸ hd.empty, hd.welcome, taken ▸ hd.taken_eq, ?_⟩
  rw [events, stats]
  exact hd.events

/-- The dispatcher ends by itself only when everything is done. -/
theorem Concluded.exhausted (hs : Stock C h d) (isOpen : d.queue.isOpen = true)
    (welcome : ∀ t, (t, false) ∉ decisions h) (left : d.producers = false)
    (drained : d.queue.drained = true) :
    Concluded (h ++ d.dismissed) (d.tell exhausted).finish := by
  rw [Queue.drained, Bool.and_eq_true, Bool.and_eq_true, List.isEmpty_iff, List.isEmpty_iff,
    List.isEmpty_iff] at drained
  obtain ⟨⟨hitems, hkept⟩, hwaiting⟩ := drained
  -- nobody waits any more, so nobody is dismissed
  have hnobody : d.dismissed = [] := by
    rw [dismissed, if_pos isOpen, Queue.close, hkept, hwaiting]
    rfl
  rw [hnobody, List.append_nil]
  refine ⟨left, ⟨rfl, rfl⟩, welcome, ?_, ⟨_, rfl⟩⟩
  -- an empty queue means that as many logs were taken as were accepted
  have hlength := congrArg List.length (hitems.symm.trans (hs.items_eq isOpen))
  rw [List.length_nil, List.length_drop, logs, List.length_map] at hlength
  exact Nat.le_antisymm hs.taken_le (Nat.sub_eq_zero_iff_le.mp hlength.symm)

/-- **A dispatcher that has ended does nothing more.** -/
theorem Concluded.step (hd : Concluded h d) {time : Nat} (stopped : d.stage = .stopped time)
    (patient : Patient seen) (step : Step a h d seen d') : Concluded (h ++ seen) d' := by
  cases step with
  | start stage isOpen => exact absurd (stopped.symm.trans stage) (by simp)
  | drop stage => exact absurd (stopped.symm.trans stage) (by simp)
  | offered fresh isOpen room =>
    exact absurd (patient _ List.mem_cons_self) (by simp [Sight.isPatient])
  | declined fresh refused =>
    exact absurd (patient _ List.mem_cons_self) (by simp [Sight.isPatient])
  | enqueued there fresh isOpen room => exact absurd (there.symm.trans hd.left) (by simp)
  | waited there fresh isOpen full => exact absurd (there.symm.trans hd.left) (by simp)
  | turnedAway there fresh closed => exact absurd (there.symm.trans hd.left) (by simp)
  | cameBack request kept => exact absurd (hd.empty.1 ▸ kept) List.not_mem_nil
  | released request kept => exact absurd (hd.empty.1 ▸ kept) List.not_mem_nil
  | withdrew request kept =>
    exact absurd (patient _ List.mem_cons_self) (by simp [Sight.isPatient])
  | missed => exact hd.still hd.left rfl rfl rfl rfl
  | leave => exact hd.still rfl rfl rfl rfl rfl
  | cancel => exact hd.still hd.left rfl rfl rfl rfl
  | wait t => exact hd.still hd.left rfl rfl rfl rfl
  | turn turn => exact absurd stopped (turn.running.1.2 time)
  | ending silent ending => exact absurd stopped (ending.running.2 time)

/-- **Without the signal to give up** a dispatcher ends only when everything is done. -/
theorem Run.concluded {broker : β} {q : Queue Log} (hq : Queue.new? C = some q)
    (run : Run a (.new broker q ids) h d) (patient : Patient h)
    (uncancelled : d.worker.cancelled = false) {time : Nat} (stopped : d.stage = .stopped time) :
    Concluded h d := by
  -- by induction on the run, with what holds of every run at each state
  induction run generalizing time with
  | begin => exact absurd stopped (by simp [Dispatcher.new])
  | @move h seen m d d' run proper made ih =>
    have step := step_of_step? proper made
    have hcancelled := step.cancelled_of uncancelled
    -- a dispatcher that has ended before does nothing more
    by_cases hstopped : ∃ time, d.stage = .stopped time
    · obtain ⟨time', hstage⟩ := hstopped
      exact (ih patient.left hcancelled hstage).step hstage patient.right step
    · -- only an ending leads from another stage to the last one
      cases step with
      | start stage isOpen => exact absurd stopped (by simp [Dispatcher.start, tell])
      | drop stage =>
        have hsame : d.closeQueue.stage = d.stage := rfl
        exact absurd ((hsame.symm.trans stopped).symm.trans stage) (by simp)
      | turn turn => exact absurd stopped (turn.running.2 time)
      | @ending s _ silent ending =>
        have hrunning := ending.running
        cases ending with
        | unconnected stage cancelled link =>
          exact absurd (hcancelled.symm.trans cancelled) (by simp)
        | exhausted stage left drained =>
          have hopen : d.queue.isOpen = true := (run.receiving hq).running hrunning
          have hsilent : accepted s = [] ∧ decisions s = [] := by
            rcases silent with rfl | rfl <;> exact ⟨rfl, rfl⟩
          have hs : Stock C (h ++ s) d :=
            (run.stock hq).still (run.stock hq).sound rfl rfl rfl rfl hsilent.1
          -- nobody was turned away while the queue had its receiver
          have hwelcome : ∀ t, (t, false) ∉ decisions (h ++ s) := by
            intro t refused
            rw [decisions_append, hsilent.2, List.append_nil] at refused
            exact absurd (run.closed_of_refused hq refused) (by simp [hopen])
          rw [← List.append_assoc]
          exact .exhausted hs hopen hwelcome left drained
        | resigned stage cancelled => exact absurd (hcancelled.symm.trans cancelled) (by simp)
      | _ => exact absurd ⟨time, stopped⟩ hstopped

/-- **What is left when patient producers are served.** -/
structure Served (a : Assignment β) (ids : IdStream) (h : List Sight) (d : Dispatcher β) :
    Prop where
  /-- The dispatcher has told that the queue is closed, and has ended. -/
  events : ∃ before, d.worker.events = halted d.worker.stats :: exhausted :: before
  complete : Complete h
  /-- Every producer was told that its log is accepted, in the order in which they were. -/
  arrivals : d.arrivals.reverse.map (fun r => (r.ticket, r.accepted))
    = (accepted h).map fun e => (e.1, true)
  /-- The broker has acknowledged the message of every log, in this order. -/
  acked : acked h = messagesOf a ids (logs (accepted h))
  published : d.worker.stats.published = (asked h).length
  retries : d.worker.stats.retries = (calls h).countP (·.isRefused)
  /-- No call is left without an answer. -/
  calls : ∃ done : List Handover, calls h = done.flatMap (·.calls) ∧
    done.map (·.message) = messagesOf a ids (logs (accepted h))

/-- **Patient producers are served.** When the dispatcher has ended without having been told to give
up, every log was accepted and acknowledged. -/
theorem Run.served {broker : β} {q : Queue Log} (hq : Queue.new? C = some q)
    (run : Run a (.new broker q ids) h d) (patient : Patient h)
    (uncancelled : d.worker.cancelled = false) {time : Nat} (stopped : d.stage = .stopped time) :
    Served a ids h d := by
  have hd : Concluded h d := run.concluded hq patient uncancelled stopped
  have ha : Attended h d := run.attended hq
  have hcomplete : Complete h := by
    refine ⟨ha.orderly, patient, hd.welcome, ?_⟩
    rw [ha.desk, hd.empty.1, hd.empty.2]
    rfl
  obtain ⟨done, rest, hp⟩ := run.progress hq
  -- no message is in hand, because the dispatcher was not told to give up
  obtain ⟨rfl, hcount⟩ : rest = [] ∧ d.taken = done.length := by
    cases hp.standing with
    | resting stage count => exact ⟨rfl, by rw [count, List.length_map]⟩
    | publishing stage count next attempts => exact absurd (stopped.symm.trans stage) (by simp)
    | resigned stage cancelled count next attempts =>
      exact absurd (uncancelled.symm.trans cancelled) (by simp)
  have hlength : done.length = (accepted h).length := by
    rw [← hcount, hd.taken_eq]
  -- the messages that were taken are the first ones, and as many as there are logs
  have hdone : done.map (·.message) = messagesOf a ids (logs (accepted h)) := by
    refine hp.inOrder.eq_of_length ?_
    rw [List.length_map, hlength, messages, length_messagesOf, logs, List.length_map]
  exact {
    events := hd.events
    complete := hcomplete
    arrivals := by rw [ha.arrivals, patient.decisions_eq hd.welcome]
    acked := by rw [hp.acked_eq, hdone]
    published := by rw [hp.published, hlength, hcomplete.perm.length_eq]
    retries := hp.retries
    calls := ⟨done, by rw [hp.calls_eq, List.append_nil], hdone⟩ }

end Dispatcher

end AuditRelay
