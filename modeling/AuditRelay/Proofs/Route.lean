import AuditRelay.Nats.Client
import AuditRelay.Proofs.Run

/-!
# A dispatcher, its client and a stream

A dispatcher sends its messages through a client, the client repeats requests by itself, and the
requests reach the stream late, in any order, more than once or never. `Route` is the three of them
together, and `Route.step?` says what can happen to them:

* The dispatcher makes a move of its own, and the client goes along (`Client.follow?`). A message
  that the dispatcher sends is a call to the client. What the dispatcher takes for the answer is the
  answer to the last request that the client may make, or an acknowledgment; an acknowledgment comes
  only if the stream holds the message. A call that the dispatcher gives up is abandoned.
* A request of the client fails, and the client will repeat it, or it does so after its pause. It
  fails for any reason, whether the stream has the message or not.
* A request that was made at some time arrives at the stream, which takes the message unless it
  holds one with the same id.

A request that never arrives is lost. The broker of the dispatcher (`Assignment.connector`) may be
any: it stands for all that is to come, and `Client.follow?` ties its answers to the client.
-/

namespace AuditRelay

open History

namespace Nats

/-! ### Streams -/

namespace Stream

/-- Whether a stream holds a message with an id. -/
def holds (stream : List Message) (id : String) : Bool :=
  stream.any (·.id == id)

/-- What a stream holds after a request. -/
def store (stream : List Message) (m : Message) : List Message :=
  if holds stream m.id then stream else stream ++ [m]

theorem holds_iff {stream : List Message} {id : String} :
    holds stream id = true ↔ id ∈ stream.map (·.id) := by
  simp [holds]

theorem holds_of_mem {stream : List Message} {m : Message} (h : m ∈ stream) :
    holds stream m.id = true :=
  holds_iff.mpr (List.mem_map_of_mem h)

/-- A copy changes nothing. -/
theorem store_of_mem {stream : List Message} {m : Message} (h : m ∈ stream) :
    store stream m = stream :=
  if_pos (holds_of_mem h)

/-- A new message comes behind the others. -/
theorem store_of_new {stream : List Message} {m : Message} (h : m.id ∉ stream.map (·.id)) :
    store stream m = stream ++ [m] :=
  if_neg fun hold => h (holds_iff.mp hold)

end Stream

/-! ### Clients -/

namespace Client

variable {c c' : Client}

/-- The message of a call that is made. -/
def Move.message? : Move → Option Message
  | .call _ m => some m
  | _ => none

/-- The messages of the calls that have not returned. -/
def callers (c : Client) : List Message :=
  c.sending.map (·.2.1) ++ c.waiting.map (·.2)

theorem callers_pass (c : Client) : c.pass.callers = c.callers := by
  unfold pass
  -- whoever is given a permit moves from those who wait to those who send
  split
  · rfl
  · next ticket m rest hw =>
    split
    · simp [callers, grant, hw]
    · rfl

/-- Giving a permit makes the first request of a call. -/
theorem requests_pass (c : Client) :
    ∀ r ∈ c.pass.requests, r ∈ c.requests ∨ r.2 ∈ c.callers := by
  intro r hr
  unfold pass at hr
  split at hr
  · exact Or.inl hr
  · next ticket m rest hw =>
    split at hr
    · rcases List.mem_cons.mp hr with rfl | hold
      · exact Or.inr (by simp [callers, hw])
      · exact Or.inl hold
    · exact Or.inl hr

theorem callers_remove (c : Client) (ticket : Nat) :
    (c.remove ticket).callers.Sublist c.callers :=
  (List.filter_sublist.map _).append (List.filter_sublist.map _)

theorem callers_update (c : Client) (ticket : Nat) (f : Sending → Sending) :
    (c.update ticket f).callers = c.callers := by
  have hsame : ∀ s : Nat × Message × Sending,
      (if s.1 = ticket then (s.1, s.2.1, f s.2.2) else s).2.1 = s.2.1 := by
    intro s
    split <;> rfl
  simp [callers, update, Function.comp_def, hsame]

/-- The message of a call that has a permit. -/
theorem mem_callers_of_find? {ticket : Nat} {m : Message} {s : Sending}
    (h : c.find? ticket = some (m, s)) : m ∈ c.callers := by
  obtain ⟨e, he, hm⟩ := Option.map_eq_some_iff.mp h
  have hmem : e ∈ c.sending := List.mem_of_find?_eq_some he
  exact List.mem_append_left _ (List.mem_map.mpr ⟨e, hmem, by rw [hm]⟩)

/-- **What a move of a client can do.** It adds a call at most, and it makes requests for calls that
have not returned. -/
theorem step_of_step? {mv : Move} (made : c.step? mv = some c') :
    c'.callers.Sublist (c.callers ++ mv.message?.toList) ∧
      ∀ r ∈ c'.requests, r ∈ c.requests ∨ r.2 ∈ c.callers ++ mv.message?.toList := by
  -- a call that ends frees a permit, and the next call may use it
  have hremoved : ∀ ticket, (c.remove ticket).pass.callers.Sublist (c.callers ++ []) ∧
      ∀ r ∈ (c.remove ticket).pass.requests, r ∈ c.requests ∨ r.2 ∈ c.callers ++ [] := by
    intro ticket
    rw [List.append_nil, callers_pass]
    refine ⟨c.callers_remove ticket, fun r hr => ?_⟩
    rcases (c.remove ticket).requests_pass r hr with hold | hnew
    · exact Or.inl hold
    · exact Or.inr ((c.callers_remove ticket).subset hnew)
  cases mv with
  | call ticket m =>
    simp only [step?] at made
    split at made
    · next hfree =>
      obtain rfl := Option.some.inj made
      refine ⟨by simp [callers, grant, hfree.2, Move.message?], fun r hr => ?_⟩
      rcases List.mem_cons.mp hr with rfl | hold
      · exact Or.inr (by simp [Move.message?])
      · exact Or.inl hold
    · obtain rfl := Option.some.inj made
      exact ⟨by simp [callers, Move.message?], fun r hr => Or.inl hr⟩
  | answer ticket r =>
    simp only [step?] at made
    split at made
    · split at made
      · split at made
        · obtain rfl := Option.some.inj made
          exact hremoved ticket
        · obtain rfl := Option.some.inj made
          refine ⟨?_, fun r hr => Or.inl hr⟩
          rw [callers_update]
          exact List.sublist_append_left ..
      · exact absurd made (by simp)
    · exact absurd made (by simp)
  -- the request is made for a call that has a permit
  | rested ticket =>
    simp only [step?] at made
    split at made
    · next m made' hfind =>
      obtain rfl := Option.some.inj made
      refine ⟨?_, fun r hr => ?_⟩
      · change (c.update ticket Sending.rested).callers.Sublist _
        rw [callers_update]
        exact List.sublist_append_left ..
      · rcases List.mem_cons.mp hr with rfl | hold
        · exact Or.inr (List.mem_append_left _ (mem_callers_of_find? hfind))
        · exact Or.inl hold
    · exact absurd made (by simp)
  | abandon ticket =>
    obtain rfl := Option.some.inj made
    exact hremoved ticket

/-- The call that has a permit returns with an answer: it is an acknowledgment of a message that the
stream holds, or the failure of the last request that may be made. -/
def return? (stream : List Message) (c : Client) (r : Except Failure Nat) : Option Client :=
  match c.sending with
  | [] => none
  | (ticket, m, s) :: _ =>
    if (s.answered c.retries r).result?.isSome && (!r.isOk || Stream.holds stream m.id) then
      c.step? (.answer ticket r)
    else none

/-- Goes along with what is seen of a dispatcher; none if it cannot be seen with this client. -/
def follow? (stream : List Message) (c : Client) : Sight → Option Client
  | .sent m => c.step? (.call c.requests.length m)
  | .answered r => c.return? stream r
  | .givenUp =>
    match c.sending with
    | [] => some c
    | (ticket, _) :: _ => c.step? (.abandon ticket)
  | _ => some c

/-- A call that is the only one. -/
theorem alone (single : c.callers.length ≤ 1) {ticket : Nat} {m : Message} {s : Sending}
    {rest : List (Nat × Message × Sending)} (hsending : c.sending = (ticket, m, s) :: rest) :
    c.callers = [m] ∧ (c.remove ticket).callers = [] := by
  rw [callers, hsending] at single
  simp only [List.map_cons, List.length_append, List.length_cons, List.length_map] at single
  have hrest : rest = [] := List.length_eq_zero_iff.mp (by omega)
  have hwaiting : c.waiting = [] := List.length_eq_zero_iff.mp (by omega)
  constructor
  · rw [callers, hsending, hrest, hwaiting]
    rfl
  · rw [callers, remove, hsending, hrest, hwaiting]
    simp

/-- **The only call returns**, and nothing is called any more. If it returns with an acknowledgment,
the stream holds its message. -/
theorem return_of_return? {stream : List Message} {r : Except Failure Nat}
    (single : c.callers.length ≤ 1) (h : c.return? stream r = some c') :
    ∃ m, c.callers = [m] ∧ c'.callers = [] ∧ (∀ q ∈ c'.requests, q ∈ c.requests ∨ q.2 = m) ∧
      (r.isOk = true → m.id ∈ stream.map (·.id)) := by
  unfold return? at h
  split at h
  · exact absurd h (by simp)
  · next ticket m s rest hsending =>
    split at h
    · next hcond =>
      rw [Bool.and_eq_true, Bool.or_eq_true, Bool.not_eq_true'] at hcond
      obtain ⟨hcallers, hnone⟩ := alone single hsending
      -- the call that has a permit is the one with its ticket
      have hfind : c.find? ticket = some (m, s) := by simp [find?, hsending]
      have hc' : c' = (c.remove ticket).pass := by
        simp only [step?, hfind, hcond.1, if_true] at h
        split at h
        · exact (Option.some.inj h).symm
        · exact absurd h (by simp)
      refine ⟨m, hcallers, ?_, fun q hq => ?_, fun ok => ?_⟩
      · rw [hc', callers_pass, hnone]
      · rcases (step_of_step? h).2 q hq with hold | hnew
        · exact Or.inl hold
        · rw [hcallers] at hnew
          exact Or.inr (by simpa [Move.message?] using hnew)
      · rcases hcond.2 with refused | hold
        · exact absurd (ok.symm.trans refused) (by simp)
        · exact Stream.holds_iff.mp hold
    · exact absurd h (by simp)

/-- What is seen of the producers does not concern the client. -/
theorem foldlM_follow?_of_silent {stream : List Message} {seen : List Sight}
    (silent : ∀ s ∈ seen, ∀ c, follow? stream c s = some c) :
    seen.foldlM (follow? stream) c = some c := by
  induction seen with
  | nil => rfl
  | cons s rest ih =>
    rw [List.foldlM_cons, silent s List.mem_cons_self]
    exact ih fun s' hs' => silent s' (List.mem_cons_of_mem _ hs')

end Client

end Nats

/-! ### The three together -/

/-- A dispatcher, its client and the messages that the stream holds. -/
structure Route (β : Type) where
  dispatcher : Dispatcher β
  client : Nats.Client
  stream : List Message

namespace Route

variable {β : Type}

/-- What can happen. -/
inductive Move where
  /-- The dispatcher or a producer makes a move. -/
  | work (m : Dispatcher.Move)
  /-- A request of a call fails, and another one will follow. -/
  | fail (ticket : Nat) (e : Failure)
  /-- It follows. -/
  | rest (ticket : Nat)
  /-- One of the requests that were made arrives at the stream. -/
  | arrive (i : Nat)

/-- The rules for the moves of a run hold. -/
def Move.Proper (h : List Sight) : Move → Prop
  | .work m => m.Proper h
  | _ => True

instance (h : List Sight) : (m : Move) → Decidable (m.Proper h)
  | .work m => inferInstanceAs (Decidable (m.Proper h))
  | .fail .. | .rest _ | .arrive _ => .isTrue trivial

/-- A call to a client that goes on after a failure. -/
def repeats (c : Nats.Client) (ticket : Nat) (e : Failure) : Bool :=
  match c.find? ticket with
  | some (_, s) => (s.answered c.retries (.error e)).result?.isNone
  | none => false

/-- What is seen of the dispatcher and the producers, and what comes of all three; none if the move
cannot be made. -/
def step? (a : Assignment β) (w : Route β) : Move → Option (List Sight × Route β)
  | .work m => do
    let (seen, d) ← w.dispatcher.step? a m
    let c ← seen.foldlM (Nats.Client.follow? w.stream) w.client
    return (seen, ⟨d, c, w.stream⟩)
  | .fail ticket e =>
    if repeats w.client ticket e then
      (w.client.step? (.answer ticket (.error e))).map fun c => ([], { w with client := c })
    else none
  | .rest ticket => (w.client.step? (.rested ticket)).map fun c => ([], { w with client := c })
  | .arrive i =>
    w.client.requests[i]?.map fun r => ([], { w with stream := Nats.Stream.store w.stream r.2 })

/-- **Runs of all three.** -/
inductive Run (a : Assignment β) (w₀ : Route β) : List Sight → Route β → Prop where
  | begin : Run a w₀ [] w₀
  | move {h seen : List Sight} {m : Move} {w w' : Route β} (run : Run a w₀ h w)
    (proper : m.Proper h) (made : w.step? a m = some (seen, w')) : Run a w₀ (h ++ seen) w'

/-- Makes some moves one after the other. -/
def play (a : Assignment β) (w₀ : Route β) (ms : List Move) : List Sight × Route β :=
  History.play (fun h m => m.Proper h) (fun w m => w.step? a m) w₀ ms

/-- What is played is a run. -/
theorem run_play (a : Assignment β) (w₀ : Route β) (ms : List Move) :
    Run a w₀ (play a w₀ ms).1 (play a w₀ ms).2 :=
  History.play_keeps .begin (fun run proper made => run.move proper made) ms

variable {a : Assignment β} {h seen : List Sight} {w₀ w w' : Route β}

/-- **Everything that can happen.** -/
inductive Step (a : Assignment β) (h : List Sight) (w : Route β) : List Sight → Route β → Prop where
  | work {m : Dispatcher.Move} {seen : List Sight} {d : Dispatcher β} {c : Nats.Client}
    (proper : m.Proper h) (made : w.dispatcher.step? a m = some (seen, d))
    (follows : seen.foldlM (Nats.Client.follow? w.stream) w.client = some c) :
    Step a h w seen ⟨d, c, w.stream⟩
  /-- A request fails, or another one follows. -/
  | client {m : Nats.Client.Move} {c : Nats.Client} (noCall : m.message? = none)
    (made : w.client.step? m = some c) : Step a h w [] { w with client := c }
  | arrive {ticket : Nat} {m : Message} (requested : (ticket, m) ∈ w.client.requests) :
    Step a h w [] { w with stream := Nats.Stream.store w.stream m }

theorem step_of_step? {m : Move} (proper : m.Proper h) (made : w.step? a m = some (seen, w')) :
    Step a h w seen w' := by
  cases m with
  | work m =>
    simp only [step?, Option.bind_eq_bind, Option.bind_eq_some_iff] at made
    obtain ⟨⟨s, d⟩, hstep, c, hfollows, heq⟩ := made
    obtain ⟨rfl, rfl⟩ := Prod.mk.inj (Option.some.inj heq)
    exact .work proper hstep hfollows
  | fail ticket e =>
    simp only [step?] at made
    split at made
    · obtain ⟨c, hc, heq⟩ := Option.map_eq_some_iff.mp made
      obtain ⟨rfl, rfl⟩ := Prod.mk.inj heq
      exact .client rfl hc
    · exact absurd made (by simp)
  | rest ticket =>
    obtain ⟨c, hc, heq⟩ := Option.map_eq_some_iff.mp made
    obtain ⟨rfl, rfl⟩ := Prod.mk.inj heq
    exact .client rfl hc
  | arrive i =>
    obtain ⟨⟨ticket, m⟩, hr, heq⟩ := Option.map_eq_some_iff.mp made
    obtain ⟨rfl, rfl⟩ := Prod.mk.inj heq
    exact .arrive (List.mem_of_getElem? hr)

/-- What the dispatcher does in it is a run of the dispatcher. -/
theorem Run.dispatcher (run : Run a w₀ h w) :
    Dispatcher.Run a w₀.dispatcher h w.dispatcher := by
  induction run with
  | begin => exact .begin
  | move run proper made ih =>
    cases step_of_step? proper made with
    | work rules goes follows => exact ih.move rules goes
    -- the dispatcher does nothing
    | client noCall goes =>
      rw [List.append_nil]
      exact ih
    | arrive requested =>
      rw [List.append_nil]
      exact ih

end Route

end AuditRelay
