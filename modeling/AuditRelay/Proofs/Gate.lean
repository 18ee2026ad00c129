import AuditRelay.Nats.Gate
import Mathlib.Data.List.Nodup

/-!
# Runs of a gate

Any number of callers share a client, and each of them repeats its requests, waits and gives up when
it likes. `Gate.Run` is anything that can happen then, in any order; the moves are those of the gate
itself (`Gate.step?`).

* `phase?` reads from what was seen how far a call has come, and `during` which calls have come as
  far as that. Neither looks at the gate.
* `Step` says everything that one move can do. Every invariant of a gate is proved from it and never
  unfolds the moves again.
* `Lists` ties a list of tickets to what was seen: it has all calls of one phase, each once. Its
  lemmas say what becomes of such a list when one call does one thing.

A call is known by its ticket, which no other call has (`Move.Proper`).
-/

namespace AuditRelay.Nats

namespace Gate

/-! ### What is seen of calls -/

/-- How far a call has come. -/
inductive Phase where
  /-- It waits for a permit. -/
  | waiting
  /-- It has a permit. -/
  | admitted
  /-- It has made a request, and has neither returned nor been abandoned. -/
  | underway
  | ended
  deriving DecidableEq

namespace Deed

/-- The ticket of the call that does it. -/
def ticket : Deed → Nat
  | called t _ => t
  | admitted t => t
  | requested t _ => t
  | returned t _ => t
  | abandoned t => t

/-- How far that call has come with it. -/
def phase : Deed → Phase
  | called .. => .waiting
  | admitted _ => .admitted
  | requested .. => .underway
  | returned .. => .ended
  | abandoned _ => .ended

/-- The ticket and the message of a call that begins. -/
def call? : Deed → Option (Nat × Message)
  | called t m => some (t, m)
  | _ => none

/-- The ticket and the message of a request. -/
def request? : Deed → Option (Nat × Message)
  | requested t m => some (t, m)
  | _ => none

end Deed

/-- **How far a call has come**: as far as the last that is seen of it. -/
def phase? (h : List Deed) (ticket : Nat) : Option Phase :=
  h.foldl (fun p d => if d.ticket = ticket then some d.phase else p) none

/-- The calls with their messages, in the order in which they began. -/
def calls (h : List Deed) : List (Nat × Message) := h.filterMap Deed.call?

/-- The requests with the tickets of their calls, in the order in which they were made. -/
def requests (h : List Deed) : List (Nat × Message) := h.filterMap Deed.request?

/-- The first components, which are tickets. -/
def tickets {α : Type} (l : List (Nat × α)) : List Nat := l.map (·.1)

/-- **The calls that are in a phase.** -/
def during (h : List Deed) (p : Phase) : List Nat :=
  (tickets (calls h)).filter (phase? h · = some p)

theorem phase?_snoc (h : List Deed) (d : Deed) (t : Nat) :
    phase? (h ++ [d]) t = if d.ticket = t then some d.phase else phase? h t := by
  rw [phase?, List.foldl_append]
  rfl

theorem calls_append (h h' : List Deed) : calls (h ++ h') = calls h ++ calls h' :=
  List.filterMap_append ..

theorem requests_append (h h' : List Deed) : requests (h ++ h') = requests h ++ requests h' :=
  List.filterMap_append ..

/-- No call begins. -/
theorem calls_still {h seen : List Deed} (none : calls seen = []) : calls (h ++ seen) = calls h := by
  rw [calls_append, none, List.append_nil]

/-- Nothing is requested. -/
theorem requests_still {h seen : List Deed} (none : requests seen = []) :
    requests (h ++ seen) = requests h := by
  rw [requests_append, none, List.append_nil]

theorem requests_requested (h : List Deed) (t : Nat) (m : Message) :
    requests (h ++ [.requested t m]) = requests h ++ [(t, m)] := by
  rw [requests_append]
  rfl

/-! ### Runs -/

/-- A ticket is used for one call only. -/
def Move.Proper (h : List Deed) : Move → Prop
  | .client (.call t _) => t ∉ tickets (calls h)
  | _ => True

instance (h : List Deed) : (m : Move) → Decidable (m.Proper h)
  | .client (.call t _) => inferInstanceAs (Decidable (t ∉ tickets (calls h)))
  | .client (.answer ..) | .client (.rested _) | .client (.abandon _) | .ask _ => .isTrue trivial

/-- **Runs.** The callers, the answers and the pauses make their moves in any order. -/
inductive Run (c : Config) : List Deed → Gate → Prop where
  | begin : Run c [] (.new c)
  | move {h seen : List Deed} {m : Move} {g g' : Gate} (run : Run c h g) (proper : m.Proper h)
      (made : g.step? m = some (seen, g')) : Run c (h ++ seen) g'

/-- Makes some moves one after the other; what cannot be made is left out. -/
def play (c : Config) (ms : List Move) : List Deed × Gate :=
  ms.foldl (fun s m =>
    if m.Proper s.1 then
      match s.2.step? m with
      | some (seen, g) => (s.1 ++ seen, g)
      | none => s
    else s) ([], .new c)

/-- What is played is a run. -/
theorem run_play (c : Config) (ms : List Move) : Run c (play c ms).1 (play c ms).2 := by
  unfold play
  -- by induction on the moves, from any state that a run has reached
  suffices hrun : ∀ s : List Deed × Gate, Run c s.1 s.2 →
      Run c (ms.foldl _ s).1 (ms.foldl _ s).2 from hrun _ .begin
  induction ms with
  | nil =>
    intro s run
    exact run
  | cons m rest ih =>
    intro s run
    rw [List.foldl_cons]
    apply ih
    split
    · next proper =>
      split
      · next made => exact run.move proper made
      · exact run
    · exact run

/-! ### Everything that a move can do -/

variable {c : Config} {h seen : List Deed} {g g' : Gate} {t : Nat}

theorem mem_tickets {α : Type} {x : α} {l : List (Nat × α)} (there : (t, x) ∈ l) :
    t ∈ tickets l :=
  List.mem_map.mpr ⟨_, there, rfl⟩

/-- The calls that have a permit. -/
def holders (g : Gate) : List Nat := tickets g.admitted ++ tickets g.client.sending

theorem length_holders (g : Gate) :
    g.holders.length = g.admitted.length + g.client.sending.length := by
  rw [holders, List.length_append, tickets, tickets, List.length_map, List.length_map]

theorem holds_iff : g.holds t = true ↔ t ∈ g.holders := by
  simp [holds, holders, tickets]

theorem release_of_nil (nobody : g.client.waiting = []) :
    g.release = ([], { g with free := g.free + 1 }) := by
  simp only [release, nobody]

theorem release_of_cons {m : Message} {rest : List (Nat × Message)}
    (first : g.client.waiting = (t, m) :: rest) :
    g.release = ([.admitted t],
      { g with
        client := { g.client with waiting := rest }
        admitted := g.admitted ++ [(t, m)] }) := by
  simp only [release, first]

/-- **Everything that a move can do.** -/
inductive Step (h : List Deed) (g : Gate) : List Deed → Gate → Prop where
  /-- A caller finds a permit. -/
  | enter {t : Nat} {m : Message} (new : t ∉ tickets (calls h)) (free : 0 < g.free) :
      Step h g [.called t m, .admitted t]
        { g with free := g.free - 1, admitted := g.admitted ++ [(t, m)] }
  /-- A caller finds none. -/
  | queue {t : Nat} {m : Message} (new : t ∉ tickets (calls h)) (none : g.free = 0) :
      Step h g [.called t m]
        { g with client := { g.client with waiting := g.client.waiting ++ [(t, m)] } }
  /-- A call makes its first request. -/
  | ask {t : Nat} {m : Message} (there : (t, m) ∈ g.admitted) :
      Step h g [.requested t m]
        { g with
          client := g.client.grant t m
          admitted := g.admitted.filter (·.1 ≠ t) }
  /-- A request has failed, and another one will follow. -/
  | fail {t : Nat} {f : Sending → Sending} : Step h g [] { g with client := g.client.update t f }
  /-- It follows. -/
  | rest {t : Nat} {m : Message} {s : Sending} (there : (t, m, s) ∈ g.client.sending) :
      Step h g [.requested t m]
        { g with client :=
          { g.client.update t Sending.rested with requests := (t, m) :: g.client.requests } }
  /-- A call that has a permit returns or is abandoned. -/
  | leave {t : Nat} {d : Deed} (there : t ∈ g.holders) (own : d.ticket = t)
      (ended : d.phase = .ended) : Step h g (g.leave t d).1 (g.leave t d).2
  /-- A call is abandoned while it waits. -/
  | resign {t : Nat} (there : t ∈ tickets g.client.waiting) (without : t ∉ g.holders) :
      Step h g [.abandoned t] (g.remove t)

/-- What is found under a ticket. -/
theorem of_find? {α : Type} {l : List (Nat × α)} {e : Nat × α}
    (found : l.find? (·.1 = t) = some e) : e ∈ l ∧ e.1 = t :=
  ⟨List.mem_of_find?_eq_some found, by simpa using List.find?_some found⟩

/-- The call that a client finds under a ticket. -/
theorem mem_of_find? {m : Message} {s : Sending} (found : g.client.find? t = some (m, s)) :
    (t, m, s) ∈ g.client.sending := by
  obtain ⟨e, he, hs⟩ := Option.map_eq_some_iff.mp found
  obtain ⟨there, own⟩ := of_find? he
  have entry : e = (t, m, s) := Prod.ext own hs
  exact entry ▸ there

theorem mem_holders_of_sending {m : Message} {s : Sending} (there : (t, m, s) ∈ g.client.sending) :
    t ∈ g.holders :=
  List.mem_append_right _ (mem_tickets there)

theorem step_of_step? {m : Move} (proper : m.Proper h) (made : g.step? m = some (seen, g')) :
    Step h g seen g' := by
  cases m with
  | ask t =>
    simp only [step?] at made
    obtain ⟨⟨t', m⟩, found, result⟩ := Option.map_eq_some_iff.mp made
    obtain ⟨rfl, rfl⟩ := Prod.mk.inj result
    obtain ⟨there, rfl⟩ := of_find? found
    exact .ask there
  | client m =>
    cases m with
    | call t m =>
      simp only [step?] at made
      split at made
      · next free =>
        obtain ⟨rfl, rfl⟩ := Prod.mk.inj (Option.some.inj made)
        exact .enter proper free
      · next none =>
        obtain ⟨rfl, rfl⟩ := Prod.mk.inj (Option.some.inj made)
        exact .queue proper (Nat.eq_zero_of_not_pos none)
    | answer t r =>
      simp only [step?] at made
      split at made
      · next m s found =>
        split at made
        · split at made
          -- the answer is the last one, or another request follows
          · obtain ⟨rfl, rfl⟩ := Prod.mk.inj (Option.some.inj made)
            exact .leave (mem_holders_of_sending (mem_of_find? found)) rfl rfl
          · obtain ⟨rfl, rfl⟩ := Prod.mk.inj (Option.some.inj made)
            exact .fail
        · cases made
      · cases made
    | rested t =>
      simp only [step?] at made
      split at made
      · next m s c' found rested =>
        obtain ⟨rfl, rfl⟩ := Prod.mk.inj (Option.some.inj made)
        simp only [Client.step?, found] at rested
        split at rested
        · next m' n same =>
          obtain ⟨rfl, -⟩ := Prod.mk.inj (Option.some.inj same)
          obtain rfl := Option.some.inj rested
          exact .rest (mem_of_find? found)
        · cases rested
      · cases made
    | abandon t =>
      simp only [step?] at made
      split at made
      · next holds =>
        obtain ⟨rfl, rfl⟩ := Prod.mk.inj (Option.some.inj made)
        exact .leave (holds_iff.mp holds) rfl rfl
      · next without =>
        split at made
        · next waits =>
          obtain ⟨rfl, rfl⟩ := Prod.mk.inj (Option.some.inj made)
          refine .resign ?_ (mt holds_iff.mpr without)
          simpa [tickets] using waits
        · cases made

/-! ### Lists of calls -/

section Lists

variable {α : Type} {p : Phase} {ts : List Nat} {d : Deed}

theorem tickets_append (l l' : List (Nat × α)) : tickets (l ++ l') = tickets l ++ tickets l' :=
  List.map_append ..

theorem tickets_filter (l : List (Nat × α)) (t : Nat) :
    tickets (l.filter (·.1 ≠ t)) = (tickets l).filter (· ≠ t) := by
  rw [tickets, tickets, List.filter_map]
  rfl

theorem filter_of_absent {l : List (Nat × α)} (absent : t ∉ tickets l) :
    l.filter (·.1 ≠ t) = l := by
  apply List.filter_eq_self.mpr
  intro e there
  refine decide_eq_true fun own => absent ?_
  exact own ▸ List.mem_map_of_mem (f := (·.1)) there

/-- What is not in a list is not missed when it is taken out. -/
theorem filter_of_not_mem (absent : t ∉ ts) : ts.filter (· ≠ t) = ts := by
  apply List.filter_eq_self.mpr
  intro t' there
  exact decide_eq_true fun same => absent (same ▸ there)

/-- Taking out what is in a list once makes it shorter by one. -/
theorem length_filter_of_mem (nodup : ts.Nodup) (there : t ∈ ts) :
    (ts.filter (· ≠ t)).length + 1 = ts.length := by
  have erased : ts.erase t = ts.filter (· ≠ t) := by
    rw [nodup.erase_eq_filter]
    apply List.filter_congr
    intro t' _
    by_cases same : t' = t <;> simp [same]
  have pos : 0 < ts.length := List.length_pos_of_mem there
  rw [← erased, List.length_erase_of_mem there]
  omega

/-- **All calls that are in a phase**, each once. -/
structure Lists (h : List Deed) (p : Phase) (ts : List Nat) : Prop where
  nodup : ts.Nodup
  mem_iff : ∀ t, t ∈ ts ↔ phase? h t = some p

namespace Lists

theorem begin : Lists [] p [] := ⟨List.nodup_nil, fun _ => by simp [phase?]⟩

/-- A call in another phase is not among them. -/
theorem absent (lists : Lists h p ts) (other : phase? h t ≠ some p) : t ∉ ts :=
  mt (lists.mem_iff t).mp other

/-- A call gets into the phase. -/
theorem snoc (lists : Lists h p ts) (own : d.phase = p) (new : d.ticket ∉ ts) :
    Lists (h ++ [d]) p (ts ++ [d.ticket]) where
  nodup := by
    rw [List.nodup_append]
    refine ⟨lists.nodup, List.nodup_singleton _, fun t there t' last => ?_⟩
    rw [List.mem_singleton.mp last]
    exact fun same => new (same ▸ there)
  mem_iff t := by
    rw [phase?_snoc, List.mem_append, List.mem_singleton, lists.mem_iff]
    by_cases same : d.ticket = t
    · simp [same, own]
    · simp [same, Ne.symm same]

/-- A call of the phase does something and stays in it. -/
theorem again (lists : Lists h p ts) (own : d.phase = p) (there : d.ticket ∈ ts) :
    Lists (h ++ [d]) p ts where
  nodup := lists.nodup
  mem_iff t := by
    rw [phase?_snoc]
    by_cases same : d.ticket = t
    · simp [← same, there, own]
    · rw [if_neg same, lists.mem_iff]

/-- A call gets out of the phase, if it is in it. -/
theorem filter (lists : Lists h p ts) (other : d.phase ≠ p) :
    Lists (h ++ [d]) p (ts.filter (· ≠ d.ticket)) where
  nodup := lists.nodup.filter _
  mem_iff t := by
    rw [phase?_snoc, List.mem_filter, lists.mem_iff]
    by_cases same : d.ticket = t
    · simp [same, other]
    · simp [same, Ne.symm same]

/-- What a call does that is not in the phase does not matter, if it does not get there. -/
theorem still (lists : Lists h p ts) (other : d.phase ≠ p) (absent : d.ticket ∉ ts) :
    Lists (h ++ [d]) p ts := by
  have out := lists.filter other
  rwa [filter_of_not_mem absent] at out

end Lists

end Lists

end Gate

end AuditRelay.Nats
