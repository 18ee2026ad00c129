import AuditRelay.Proofs.Payload
import AuditRelay.Proofs.Storage

/-!
# One id for each log

An id is drawn when a log is taken from the queue, and the message that is made of the log then
keeps it: however often the message is sent, and whatever the caller has written in its place.

`Named` is the invariant. It speaks of the ids that one dispatcher has drawn, in their order, and
not of the source, so that others may draw from the same source in between. The call at which the
broker has acknowledged `i` messages is about the log at place `i` (`placeOf`), and `Bears` says
which message that is.

`Numbered` collects what follows from it when the ids are drawn in ascending order.
-/

namespace AuditRelay

open History

/-! ### Calls and places -/

/-- The place of the log that a call is about: as many messages were acknowledged before. -/
def placeOf (cs : List Call) (j : Nat) : Nat :=
  (cs.take j).countP (·.isAcked)

/-- The message of a log at a place, under an id. -/
def namedMessage {β : Type} (a : Assignment β) (i : Nat) (name : String) (l : Log) : Message :=
  a.message i (l.enrich a.settings.origin name)

/-- A message is that of the log at a place, under the id at this place. -/
def Bears {β : Type} (a : Assignment β) (names : List String) (ls : List Log) (i : Nat)
    (m : Message) : Prop :=
  ∃ l name, ls[i]? = some l ∧ names[i]? = some name ∧ m = namedMessage a i name l

/-- Something holds of each call and of its place. -/
def Each (B : Nat → Message → Prop) (cs : List Call) : Prop :=
  ∀ j c, cs[j]? = some c → B (placeOf cs j) c.message

section Each

variable {B B' : Nat → Message → Prop} {cs : List Call}

theorem Each.nil : Each B [] := by
  intro j c hc
  simp at hc

theorem Each.mono (each : Each B cs) (imp : ∀ i m, B i m → B' i m) : Each B' cs :=
  fun j c hc => imp _ _ (each j c hc)

/-- The last call comes behind all that were acknowledged. -/
theorem each_snoc {c : Call} :
    Each B (cs ++ [c]) ↔ Each B cs ∧ B (cs.countP (·.isAcked)) c.message := by
  have place_le {j : Nat} (hj : j ≤ cs.length) : placeOf (cs ++ [c]) j = placeOf cs j := by
    rw [placeOf, placeOf, List.take_append_of_le_length hj]
  have place_last : placeOf (cs ++ [c]) cs.length = cs.countP (·.isAcked) := by
    rw [place_le (Nat.le_refl _), placeOf, List.take_length]
  constructor
  · intro each
    refine ⟨fun j c' hc' => ?_, ?_⟩
    · have hj : j < cs.length := (List.getElem?_eq_some_iff.mp hc').1
      have := each j c' (by rw [List.getElem?_append_left hj, hc'])
      rwa [place_le (Nat.le_of_lt hj)] at this
    · have := each cs.length c (by simp)
      rwa [place_last] at this
  · rintro ⟨each, last⟩ j c' hc'
    by_cases hj : j < cs.length
    · rw [List.getElem?_append_left hj] at hc'
      rw [place_le (Nat.le_of_lt hj)]
      exact each j c' hc'
    · -- behind the old calls there is only the new one
      have hlength := (List.getElem?_eq_some_iff.mp hc').1
      rw [List.length_append, List.length_singleton] at hlength
      obtain rfl : j = cs.length := by omega
      obtain rfl : c = c' := by simpa using hc'
      rw [place_last]
      exact last

end Each

/-- Neither more ids nor more logs change what stands at a place. -/
theorem Bears.mono {β : Type} {a : Assignment β} {names more : List String} {ls rest : List Log}
    {i : Nat} {m : Message} (bears : Bears a names ls i m) :
    Bears a (names ++ more) (ls ++ rest) i m := by
  obtain ⟨l, name, hl, hname, hm⟩ := bears
  have hi : i < ls.length := (List.getElem?_eq_some_iff.mp hl).1
  have hi' : i < names.length := (List.getElem?_eq_some_iff.mp hname).1
  refine ⟨l, name, ?_, ?_, hm⟩
  · rw [List.getElem?_append_left hi, hl]
  · rw [List.getElem?_append_left hi', hname]

theorem Bears.grow {β : Type} {a : Assignment β} {names : List String} {h : List Sight} {i : Nat}
    {m : Message} (bears : Bears a names (logs (accepted h)) i m) (more : List String)
    (seen : List Sight) : Bears a (names ++ more) (logs (accepted (h ++ seen))) i m := by
  rw [accepted_append, logs_append]
  exact bears.mono

namespace Dispatcher

variable {β : Type} {a : Assignment β} {C : Nat} {ids : IdStream} {names : List String}
  {h seen : List Sight} {d d' : Dispatcher β}

/-! ### The ids that a dispatcher has drawn -/

/-- **The messages bear the ids that were drawn for them**, one for each log that was taken. -/
structure Named (a : Assignment β) (names : List String) (h : List Sight) (d : Dispatcher β) :
    Prop where
  count : names.length = d.taken
  each : Each (Bears a names (logs (accepted h))) (calls h)
  /-- The message in hand is that of the log that was taken last. -/
  hand : ∀ l m t, d.stage = .publishing l m t →
    d.taken = (calls h).countP (·.isAcked) + 1 ∧
      Bears a names (logs (accepted h)) ((calls h).countP (·.isAcked)) m
  unanswered : ∀ l m made since reply, d.stage = .publishing l m (.asked made since reply) →
    ∃ cs, calls h = cs ++ [⟨m, none⟩]
  free : (∀ l m t, d.stage ≠ .publishing l m t) → (∀ time, d.stage ≠ .stopped time) →
    d.taken = (calls h).countP (·.isAcked)

theorem Named.begin {broker : β} {q : Queue Log} : Named a [] [] (.new broker q ids) where
  count := rfl
  each := .nil
  hand := fun _ _ _ stage => absurd stage (by simp [Dispatcher.new])
  unanswered := fun _ _ _ _ _ stage => absurd stage (by simp [Dispatcher.new])
  free := fun _ _ => rfl

/-- The calls so far bear what they did. -/
theorem Named.each_grow (hn : Named a names h d) (more : List String) (seen : List Sight) :
    Each (Bears a (names ++ more) (logs (accepted (h ++ seen)))) (calls h) :=
  hn.each.mono fun _ _ bears => bears.grow more seen

/-- Nothing happens between the dispatcher and the broker. -/
theorem Named.still (hn : Named a names h d) (taken : d'.taken = d.taken)
    (stage : d'.stage = d.stage) (silent : calls (h ++ seen) = calls h) :
    Named a names (h ++ seen) d' where
  count := by rw [taken]; exact hn.count
  each := by
    rw [silent, ← List.append_nil names]
    exact hn.each_grow [] seen
  hand := by
    intro l m t hstage
    obtain ⟨count, bears⟩ := hn.hand l m t (stage ▸ hstage)
    rw [silent, taken, ← List.append_nil names]
    exact ⟨count, bears.grow [] seen⟩
  unanswered := by
    intro l m made since reply hstage
    rw [silent]
    exact hn.unanswered l m made since reply (stage ▸ hstage)
  free := by
    rw [stage, silent, taken]
    exact hn.free

/-- A dispatcher without a message in hand does not get one. -/
theorem Named.rests (hn : Named a names h d) (taken : d'.taken = d.taken)
    (free : ∀ l m t, d.stage ≠ .publishing l m t) (running : ∀ time, d.stage ≠ .stopped time)
    (now : ∀ l m t, d'.stage ≠ .publishing l m t) (silent : calls (h ++ seen) = calls h) :
    Named a names (h ++ seen) d' where
  count := by rw [taken]; exact hn.count
  each := by
    rw [silent, ← List.append_nil names]
    exact hn.each_grow [] seen
  hand := fun l m t hstage => absurd hstage (now l m t)
  unanswered := fun l m _ _ _ hstage => absurd hstage (now l m _)
  free := by
    intro _ _
    rw [silent, taken]
    exact hn.free free running

/-- Whatever was in hand, the dispatcher ends. -/
theorem Named.stops (hn : Named a names h d) (taken : d'.taken = d.taken) {time : Nat}
    (now : d'.stage = .stopped time) (silent : calls (h ++ seen) = calls h) :
    Named a names (h ++ seen) d' where
  count := by rw [taken]; exact hn.count
  each := by
    rw [silent, ← List.append_nil names]
    exact hn.each_grow [] seen
  hand := fun l m t hstage => absurd (now.symm.trans hstage) (by simp)
  unanswered := fun l m _ _ _ hstage => absurd (now.symm.trans hstage) (by simp)
  free := fun _ running => absurd now (running time)

/-- An id is drawn for the first log in the queue. -/
theorem Named.took (hs : Stock C h d) (hn : Named a names h d) {raw : Log} {left : List Log}
    (stage : d.stage = .idle) (items : d.queue.items = raw :: left)
    (now : d'.stage = .publishing (raw.enrich a.settings.origin d.ids.draw.1)
      (namedMessage a d.taken d.ids.draw.1 raw) .start)
    (taken : d'.taken = d.taken + 1) :
    Named a (names ++ [d.ids.draw.1]) (h ++ d.queue.served) d' := by
  have isOpen : d.queue.isOpen = true := hs.sound.isOpen_of_items (by rw [items]; simp)
  have place : d.taken = (calls h).countP (·.isAcked) :=
    hn.free (by simp [stage]) (by simp [stage])
  have silent : calls (h ++ d.queue.served) = calls h := calls_append_served h d.queue
  -- the log that is taken is the first one that was not taken before
  have first : (logs (accepted h))[d.taken]? = some raw := by
    have hhead := congrArg List.head? (items ▸ hs.items_eq isOpen)
    rw [List.head?_drop] at hhead
    exact hhead.symm
  have bears : Bears a (names ++ [d.ids.draw.1]) (logs (accepted (h ++ d.queue.served))) d.taken
      (namedMessage a d.taken d.ids.draw.1 raw) := by
    refine ⟨raw, d.ids.draw.1, ?_, ?_, rfl⟩
    · rw [accepted_append, logs_append]
      rw [List.getElem?_append_left (List.getElem?_eq_some_iff.mp first).1, first]
    · rw [← hn.count, List.getElem?_append_right (Nat.le_refl _), Nat.sub_self]
      rfl
  refine ⟨?_, ?_, ?_, ?_, ?_⟩
  · rw [List.length_append, taken, hn.count]
    rfl
  · rw [silent]
    exact hn.each_grow _ _
  · intro l m t hstage
    obtain ⟨-, rfl, -⟩ := Stage.publishing.inj (now.symm.trans hstage)
    rw [silent, ← place]
    exact ⟨taken, bears⟩
  · intro l m made since reply hstage
    obtain ⟨-, -, ht⟩ := Stage.publishing.inj (now.symm.trans hstage)
    exact absurd ht (by simp [Trial.start])
  · intro free
    exact absurd now (free _ _ _)

/-- A call begins, with the message in hand. -/
theorem Named.sent (hn : Named a names h d) {l : Log} {m : Message} {t t' : Trial Nat}
    (stage : d.stage = .publishing l m t) (now : d'.stage = .publishing l m t')
    (taken : d'.taken = d.taken) : Named a names (h ++ [.sent m]) d' := by
  obtain ⟨count, bears⟩ := hn.hand l m t stage
  have hcalls : calls (h ++ [.sent m]) = calls h ++ [⟨m, none⟩] := calls_append_sent h m
  have hacked : (calls (h ++ [.sent m])).countP (·.isAcked) = (calls h).countP (·.isAcked) := by
    rw [hcalls, List.countP_append]
    rfl
  have hbears := bears.grow [] [.sent m]
  rw [List.append_nil] at hbears
  refine ⟨?_, ?_, ?_, ?_, ?_⟩
  · rw [taken]
    exact hn.count
  · rw [hcalls, each_snoc]
    refine ⟨?_, hbears⟩
    rw [← List.append_nil names]
    exact hn.each_grow [] _
  · intro l' m' t'' hstage
    obtain ⟨-, rfl, -⟩ := Stage.publishing.inj (now.symm.trans hstage)
    rw [hacked, taken]
    exact ⟨count, hbears⟩
  · intro l' m' made since reply hstage
    obtain ⟨-, rfl, -⟩ := Stage.publishing.inj (now.symm.trans hstage)
    exact ⟨calls h, hcalls⟩
  · intro free
    exact absurd now (free _ _ _)

/-- The call that is open is answered. The message stays the same; only if it is acknowledged the
dispatcher lets it go. -/
theorem Named.answered (hn : Named a names h d) {l : Log} {m : Message} {made since : Nat}
    {reply : Reply Nat} (stage : d.stage = .publishing l m (.asked made since reply))
    (r : Except Failure Nat) (taken : d'.taken = d.taken)
    (now : (r.isOk = true ∧ d'.stage = .idle) ∨
      (r.isOk = false ∧ ∃ wake, d'.stage = .publishing l m (.paused made wake))) :
    Named a names (h ++ [.answered r]) d' := by
  obtain ⟨count, bears⟩ := hn.hand _ _ _ stage
  obtain ⟨cs, hcs⟩ := hn.unanswered _ _ _ _ _ stage
  have hcalls : calls (h ++ [.answered r]) = cs ++ [⟨m, some r⟩] := calls_append_answered hcs r
  have hbefore : (calls h).countP (·.isAcked) = cs.countP (·.isAcked) := by
    rw [hcs, List.countP_append]
    rfl
  have hafter : (calls (h ++ [.answered r])).countP (·.isAcked)
      = cs.countP (·.isAcked) + if r.isOk then 1 else 0 := by
    rw [hcalls, List.countP_append]
    cases r <;> rfl
  rw [hbefore] at count bears
  have hbears := bears.grow [] [.answered r]
  have heach := hn.each_grow [] [.answered r]
  rw [List.append_nil] at hbears heach
  rw [hcs, each_snoc] at heach
  refine ⟨?_, ?_, ?_, ?_, ?_⟩
  · rw [taken]
    exact hn.count
  · rw [hcalls, each_snoc]
    exact ⟨heach.1, hbears⟩
  · intro l' m' t' hstage
    rcases now with ⟨-, now⟩ | ⟨hr, wake, now⟩
    · exact absurd (now.symm.trans hstage) (by simp)
    · obtain ⟨-, rfl, -⟩ := Stage.publishing.inj (now.symm.trans hstage)
      rw [hafter, hr, taken]
      exact ⟨count, hbears⟩
  · intro l' m' made' since' reply' hstage
    rcases now with ⟨-, now⟩ | ⟨-, wake, now⟩
    · exact absurd (now.symm.trans hstage) (by simp)
    · exact absurd (now.symm.trans hstage) (by simp)
  · intro free _
    rcases now with ⟨hr, now⟩ | ⟨-, wake, now⟩
    · rw [hafter, hr, taken]
      exact count
    · exact absurd now (free _ _ _)

/-- The pause between two calls is over. -/
theorem Named.woke (hn : Named a names h d) {l : Log} {m : Message} {made wake : Nat}
    (stage : d.stage = .publishing l m (.paused made wake))
    (now : d'.stage = .publishing l m (.ready made)) (taken : d'.taken = d.taken)
    (silent : calls (h ++ seen) = calls h) : Named a names (h ++ seen) d' := by
  obtain ⟨count, bears⟩ := hn.hand _ _ _ stage
  have hbears := bears.grow [] seen
  have heach := hn.each_grow [] seen
  rw [List.append_nil] at hbears heach
  refine ⟨?_, ?_, ?_, ?_, ?_⟩
  · rw [taken]
    exact hn.count
  · rw [silent]
    exact heach
  · intro l' m' t' hstage
    obtain ⟨-, rfl, -⟩ := Stage.publishing.inj (now.symm.trans hstage)
    rw [silent, taken]
    exact ⟨count, hbears⟩
  · intro l' m' made' since reply hstage
    exact absurd (now.symm.trans hstage) (by simp)
  · intro free
    exact absurd now (free _ _ _)

/-- No id is drawn. -/
theorem Named.undrawn (hn : Named a names (h ++ seen) d') (source : d'.ids = d.ids) :
    ∃ n, d'.ids = d.ids.drop n ∧ Named a (names ++ d.ids.drawMany n) (h ++ seen) d' := by
  refine ⟨0, source.trans d.ids.drop_zero.symm, ?_⟩
  rw [IdStream.drawMany_zero, List.append_nil]
  exact hn

/-- An id is drawn when a log is taken, and by no other turn. -/
theorem Named.turn (hs : Stock C h d) (hn : Named a names h d) (turn : Turn a d seen d') :
    ∃ n, d'.ids = d.ids.drop n ∧ Named a (names ++ d.ids.drawMany n) (h ++ seen) d' := by
  have quiet : calls (h ++ []) = calls h := calls_append_of_silent (by simp)
  cases turn with
  | connecting stage dial goesOn =>
    refine Named.undrawn (hn.rests rfl ?_ ?_ ?_ quiet) rfl
    · simp [stage]
    · simp [stage]
    · simp
  | connected stage dial =>
    refine Named.undrawn (hn.rests rfl ?_ ?_ ?_ quiet) rfl
    · simp [stage]
    · simp [stage]
    · simp [tell]
  | took stage items => exact ⟨1, rfl, hn.took hs stage items rfl rfl⟩
  | sent stage => exact Named.undrawn (hn.sent stage rfl rfl) rfl
  | @acknowledged _ _ _ _ sequence _ stage arrived answer =>
    exact Named.undrawn (hn.answered stage (.ok sequence) rfl (Or.inl ⟨rfl, rfl⟩)) rfl
  | @refused _ _ _ _ _ e stage arrived answer =>
    exact Named.undrawn (hn.answered stage (.error e) rfl (Or.inr ⟨rfl, _, rfl⟩)) rfl
  | woke stage due => exact Named.undrawn (hn.woke stage rfl rfl quiet) rfl

theorem Ending.stops (ending : Ending d d') :
    d'.taken = d.taken ∧ d'.ids = d.ids ∧ ∃ time, d'.stage = .stopped time := by
  cases ending <;> exact ⟨rfl, rfl, _, rfl⟩

/-- **Every move keeps the ids at their places**, and says how many are drawn. -/
theorem Named.step (hs : Stock C h d) (hn : Named a names h d) (step : Step a h d seen d') :
    ∃ n, d'.ids = d.ids.drop n ∧ Named a (names ++ d.ids.drawMany n) (h ++ seen) d' := by
  rcases step.turn_or_silent with turn | silent
  · exact hn.turn hs turn
  · cases step with
    | start stage isOpen =>
      refine Named.undrawn (hn.rests rfl ?_ ?_ ?_ silent) rfl
      · simp [stage]
      · simp [stage]
      · simp [Dispatcher.start, tell]
    | turn turn => exact hn.turn hs turn
    | ending _ ending =>
      obtain ⟨taken, source, time, now⟩ := ending.stops
      exact Named.undrawn (hn.stops taken now silent) source
    | _ => exact Named.undrawn (hn.still rfl rfl silent) rfl

/-- **The ids of a run** are the first ones of its source, one for each log that was taken. -/
theorem Run.named {broker : β} {q : Queue Log} (capacity : Queue.new? C = some q)
    (run : Run a (.new broker q ids) h d) :
    Stock C h d ∧ d.ids = ids.drop d.taken ∧ Named a (ids.drawMany d.taken) h d := by
  have invariant : Stock C h d ∧
      ∃ n, d.ids = ids.drop n ∧ Named a (ids.drawMany n) h d := by
    refine run.keeps (P := fun h d => Stock C h d ∧
      ∃ n, d.ids = ids.drop n ∧ Named a (ids.drawMany n) h d) ?_ ?_
    · exact ⟨.begin capacity, 0, ids.drop_zero.symm, .begin⟩
    · rintro h seen d d' ⟨hs, n, rest, hn⟩ step
      obtain ⟨m, rest', hn'⟩ := hn.step hs step
      refine ⟨hs.step step, n + m, by rw [rest', rest, IdStream.drop_drop], ?_⟩
      rw [IdStream.drawMany_add, ← rest]
      exact hn'
  obtain ⟨hs, n, rest, hn⟩ := invariant
  obtain rfl : n = d.taken := by rw [← hn.count, IdStream.length_drawMany]
  exact ⟨hs, rest, hn⟩

/-! ### What follows from it -/

/-- **One id for each log**: `names` are the ids that the dispatcher has drawn. -/
structure Numbered (a : Assignment β) (names : List String) (h : List Sight)
    (d : Dispatcher β) : Prop where
  /-- One is drawn for each log that was taken, and none for those that are still in the queue, nor
  for those that were never accepted. -/
  drawn : names.length = d.taken
  accepted : d.taken ≤ (History.accepted h).length
  queued : d.queue.isOpen = true → d.queue.items = (logs (History.accepted h)).drop d.taken
  /-- The ids come in the order in which the logs were accepted. -/
  ascending : names.Pairwise (· < ·)
  /-- Each call is about the log at its place, and bears the id that was drawn for this log, both
  outside and in the payload, whatever id the caller has put there. -/
  sent : ∀ j c, (calls h)[j]? = some c → ∃ l name w,
    (logs (History.accepted h))[placeOf (calls h) j]? = some l ∧
      names[placeOf (calls h) j]? = some name ∧ c.message.id = name ∧
      c.message.log? = some w ∧ w.id = name ∧
      ∀ given, c.message = namedMessage a (placeOf (calls h) j) name { l with id := given }
  /-- A log is sent as one and the same message however often, and later logs have later ids. -/
  resent : ∀ i j c c', (calls h)[i]? = some c → (calls h)[j]? = some c' →
    placeOf (calls h) i = placeOf (calls h) j → c.message = c'.message
  later : ∀ i j c c', (calls h)[i]? = some c → (calls h)[j]? = some c' →
    placeOf (calls h) i < placeOf (calls h) j → c.message.id < c'.message.id

theorem Named.numbered (hs : Stock C h d) (hn : Named a names h d)
    (ascending : names.Pairwise (· < ·)) : Numbered a names h d where
  drawn := hn.count
  accepted := hs.taken_le
  queued := hs.items_eq
  ascending := ascending
  sent := by
    intro j c hc
    obtain ⟨l, name, hl, hname, hm⟩ := hn.each j c hc
    have read : c.message.log?
        = some { l.enrich a.settings.origin name with status := none } := by
      rw [hm]
      exact Message.log?_ofLog ..
    have id_eq : c.message.id = name := by
      rw [hm]
      rfl
    exact ⟨l, name, _, hl, hname, id_eq, read, rfl, fun _ => hm⟩
  resent := by
    intro i j c c' hc hc' same
    obtain ⟨l, name, hl, hname, hm⟩ := hn.each i c hc
    obtain ⟨l', name', hl', hname', hm'⟩ := hn.each j c' hc'
    rw [same] at hl hname hm
    obtain rfl := Option.some.inj (hl.symm.trans hl')
    obtain rfl := Option.some.inj (hname.symm.trans hname')
    rw [hm, hm']
  later := by
    intro i j c c' hc hc' lt
    obtain ⟨l, name, -, hname, hm⟩ := hn.each i c hc
    obtain ⟨l', name', -, hname', hm'⟩ := hn.each j c' hc'
    obtain ⟨hi, rfl⟩ := List.getElem?_eq_some_iff.mp hname
    obtain ⟨hj, rfl⟩ := List.getElem?_eq_some_iff.mp hname'
    rw [hm, hm']
    exact List.pairwise_iff_getElem.mp ascending _ _ hi hj lt

end Dispatcher

end AuditRelay
