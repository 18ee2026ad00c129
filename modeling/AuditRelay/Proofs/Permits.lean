import AuditRelay.Proofs.Decision
import AuditRelay.Proofs.Gate
import AuditRelay.Proofs.Route

/-!
# Callers of one client keep apart

What keeps the callers of a client apart is a count of permits: whoever makes requests has one, from
before the first request until the call is over.

* `Registered` is the invariant that ties the gate to what was seen. Each of its lists has the calls
  of one phase (`Placed`), and the permits that nobody has and those of the calls are as many as
  ever.
* `Genuine` says that a request has the message of its call, and `Orderly` that with one permit the
  last request is that of the call that has it. So no request of another call can come between two
  requests of one call (`Together`).
* `publishes_apart` is the result for everything that can happen.
* `Client.Run.gate` says that a client without the gate does nothing that cannot be done with it, so
  that the same is true of `Client.step?` (`Client.Run.apart`).
-/

namespace AuditRelay.Nats

namespace Gate

variable {c : Config} {h seen : List Deed} {g g' : Gate} {t : Nat}

/-! ### The calls at a gate -/

/-- The calls that have made requests, with their messages. -/
def messages (g : Gate) : List (Nat × Message) := g.client.sending.map fun e => (e.1, e.2.1)

theorem tickets_messages (g : Gate) : tickets g.messages = tickets g.client.sending := by
  rw [tickets, messages, List.map_map]
  rfl

/-- How far a call has come makes no difference to its ticket and its message. -/
theorem messages_update (g : Gate) (t : Nat) (f : Sending → Sending) :
    ({ g with client := g.client.update t f } : Gate).messages = g.messages := by
  have same : ∀ e : Nat × Message × Sending,
      ((if e.1 = t then (e.1, e.2.1, f e.2.2) else e).1,
        (if e.1 = t then (e.1, e.2.1, f e.2.2) else e).2.1) = (e.1, e.2.1) := by
    intro e
    split <;> rfl
  simp [messages, Client.update, Function.comp_def, same]

theorem tickets_update (g : Gate) (t : Nat) (f : Sending → Sending) :
    tickets (g.client.update t f).sending = tickets g.client.sending := by
  have same := congrArg tickets (g.messages_update t f)
  rwa [tickets_messages, tickets_messages] at same

/-- Every call of which something is seen has begun, and it has begun once. A call that has made a
request does not get back to where it had none. -/
structure Roll (h : List Deed) : Prop where
  nodup : (tickets (calls h)).Nodup
  known : ∀ t, phase? h t ≠ none → t ∈ tickets (calls h)
  asked : ∀ r ∈ requests h, phase? h r.1 = some .underway ∨ phase? h r.1 = some .ended

namespace Roll

theorem begin : Roll [] :=
  ⟨List.nodup_nil, fun _ seen => absurd rfl seen, fun _ there => absurd there List.not_mem_nil⟩

theorem call {m : Message} (roll : Roll h) (new : t ∉ tickets (calls h)) :
    Roll (h ++ [.called t m]) := by
  have grown : tickets (calls (h ++ [.called t m])) = tickets (calls h) ++ [t] := by
    rw [calls_append, tickets_append]
    rfl
  have same : requests (h ++ [.called t m]) = requests h := requests_still rfl
  constructor
  · rw [grown, List.nodup_append]
    refine ⟨roll.nodup, List.nodup_singleton _, fun t' there t'' last => ?_⟩
    rw [List.mem_singleton.mp last]
    exact fun same => new (same ▸ there)
  · intro t' seen
    rw [phase?_snoc] at seen
    rw [grown]
    split at seen
    · next own => exact List.mem_append_right _ (List.mem_singleton.mpr own.symm)
    · exact List.mem_append_left _ (roll.known t' seen)
  · intro r there
    rw [same] at there
    have asked := roll.asked r there
    -- a call that has made a request is not new
    have other : (Deed.called t m).ticket ≠ r.1 := by
      rintro rfl
      refine new (roll.known r.1 fun unseen => ?_)
      simp [unseen] at asked
    rw [phase?_snoc, if_neg other]
    exact asked

/-- A call that has begun goes on: it gets a permit that it has waited for, or it gets as far as its
first request or farther. -/
theorem goesOn {d : Deed} (roll : Roll h) (begun : phase? h d.ticket ≠ none)
    (other : d.call? = none)
    (onward : phase? h d.ticket = some .waiting ∨ d.phase = .underway ∨ d.phase = .ended) :
    Roll (h ++ [d]) := by
  have same : calls (h ++ [d]) = calls h := calls_still (List.filterMap_cons_none other)
  constructor
  · rw [same]
    exact roll.nodup
  · intro t' seen
    rw [phase?_snoc] at seen
    rw [same]
    split at seen
    · next own => exact own ▸ roll.known _ begun
    · exact roll.known t' seen
  · intro r there
    rw [phase?_snoc]
    rw [requests_append] at there
    rcases List.mem_append.mp there with old | new
    · have asked := roll.asked r old
      split
      · next own =>
        rcases onward with waits | goes | ended
        · -- whoever waits has made no request
          rw [← own, waits] at asked
          simp at asked
        · exact Or.inl (congrArg some goes)
        · exact Or.inr (congrArg some ended)
      · exact asked
    · cases d with
      | requested t m =>
        rw [List.mem_singleton.mp new]
        exact Or.inl (if_pos rfl)
      | _ => cases new

end Roll

/-- **Each list of a gate has the calls of one phase.** -/
structure Placed (h : List Deed) (g : Gate) : Prop where
  roll : Roll h
  waiting : Lists h .waiting (tickets g.client.waiting)
  admitted : Lists h .admitted (tickets g.admitted)
  sending : Lists h .underway (tickets g.client.sending)

namespace Placed

/-- Nothing is seen yet of a call that has not begun. -/
theorem unseen (hp : Placed h g) (new : t ∉ tickets (calls h)) : phase? h t = none := by
  by_contra seen
  exact new (hp.roll.known t seen)

/-- A call waits. -/
theorem queue {m : Message} (hp : Placed h g) (new : t ∉ tickets (calls h)) :
    Placed (h ++ [.called t m])
      { g with client := { g.client with waiting := g.client.waiting ++ [(t, m)] } } := by
  have unseen := hp.unseen new
  have absent {p : Phase} {ts : List Nat} (lists : Lists h p ts) : t ∉ ts :=
    lists.absent (by simp [unseen])
  refine ⟨hp.roll.call new, ?_, ?_, ?_⟩
  · show Lists _ _ (tickets (g.client.waiting ++ [(t, m)]))
    rw [tickets_append]
    exact hp.waiting.snoc (d := .called t m) rfl (absent hp.waiting)
  · exact hp.admitted.still (by simp [Deed.phase]) (absent hp.admitted)
  · exact hp.sending.still (by simp [Deed.phase]) (absent hp.sending)

/-- The call that has waited longest is given a permit. -/
theorem advance {m : Message} {rest : List (Nat × Message)} (hp : Placed h g)
    (first : g.client.waiting = (t, m) :: rest) :
    Placed (h ++ [.admitted t])
      { g with
        client := { g.client with waiting := rest }
        admitted := g.admitted ++ [(t, m)] } := by
  have waits : phase? h t = some .waiting := by
    refine (hp.waiting.mem_iff t).mp ?_
    rw [first]
    exact List.mem_cons_self
  -- behind the first one it is not in the line again
  have tail : (tickets g.client.waiting).filter (· ≠ t) = tickets rest := by
    have nodup := hp.waiting.nodup
    rw [first] at nodup ⊢
    have absent : t ∉ tickets rest := (List.nodup_cons.mp nodup).1
    show (t :: tickets rest).filter (· ≠ t) = _
    rw [List.filter_cons_of_neg (by simp), filter_of_not_mem absent]
  refine ⟨hp.roll.goesOn (by simp [Deed.ticket, waits]) rfl (Or.inl waits), ?_, ?_, ?_⟩
  · show Lists _ _ (tickets rest)
    rw [← tail]
    exact hp.waiting.filter (d := .admitted t) (by simp [Deed.phase])
  · show Lists _ _ (tickets (g.admitted ++ [(t, m)]))
    rw [tickets_append]
    exact hp.admitted.snoc (d := .admitted t) rfl
      (hp.admitted.absent (by simp [Deed.ticket, waits]))
  · exact hp.sending.still (by simp [Deed.phase]) (hp.sending.absent (by simp [Deed.ticket, waits]))

/-- A call with a permit makes its first request. -/
theorem ask {m : Message} (hp : Placed h g) (there : (t, m) ∈ g.admitted) :
    Placed (h ++ [.requested t m])
      { g with
        client := g.client.grant t m
        admitted := g.admitted.filter (·.1 ≠ t) } := by
  have has : phase? h t = some .admitted :=
    (hp.admitted.mem_iff t).mp (mem_tickets there)
  refine ⟨hp.roll.goesOn (by simp [Deed.ticket, has]) rfl (Or.inr (Or.inl rfl)), ?_, ?_, ?_⟩
  · exact hp.waiting.still (by simp [Deed.phase]) (hp.waiting.absent (by simp [Deed.ticket, has]))
  · show Lists _ _ (tickets (g.admitted.filter (·.1 ≠ t)))
    rw [tickets_filter]
    exact hp.admitted.filter (d := .requested t m) (by simp [Deed.phase])
  · show Lists _ _ (tickets (g.client.sending ++ [(t, m, .start)]))
    rw [tickets_append]
    exact hp.sending.snoc (d := .requested t m) rfl
      (hp.sending.absent (by simp [Deed.ticket, has]))

/-- A call that has made requests makes another one. -/
theorem rest {m : Message} {s : Sending} {f : Sending → Sending} {rs : List (Nat × Message)}
    (hp : Placed h g) (there : (t, m, s) ∈ g.client.sending) :
    Placed (h ++ [.requested t m])
      { g with client := { g.client.update t f with requests := rs } } := by
  have listed : t ∈ tickets g.client.sending := mem_tickets there
  have goes : phase? h t = some .underway := (hp.sending.mem_iff t).mp listed
  refine ⟨hp.roll.goesOn (by simp [Deed.ticket, goes]) rfl (Or.inr (Or.inl rfl)), ?_, ?_, ?_⟩
  · exact hp.waiting.still (by simp [Deed.phase]) (hp.waiting.absent (by simp [Deed.ticket, goes]))
  · exact hp.admitted.still (by simp [Deed.phase])
      (hp.admitted.absent (by simp [Deed.ticket, goes]))
  · show Lists _ _ (tickets (g.client.update t f).sending)
    rw [tickets_update]
    exact hp.sending.again rfl listed

/-- A call is over, wherever it stood. -/
theorem remove {d : Deed} (hp : Placed h g) (begun : phase? h d.ticket ≠ none)
    (ended : d.phase = .ended) : Placed (h ++ [d]) (g.remove d.ticket) := by
  have other : d.call? = none := by
    cases d with
    | called t m => cases ended
    | _ => rfl
  refine ⟨hp.roll.goesOn begun other (Or.inr (Or.inr ended)), ?_, ?_, ?_⟩
  · show Lists _ _ (tickets (g.client.waiting.filter (·.1 ≠ d.ticket)))
    rw [tickets_filter]
    exact hp.waiting.filter (by simp [ended])
  · show Lists _ _ (tickets (g.admitted.filter (·.1 ≠ d.ticket)))
    rw [tickets_filter]
    exact hp.admitted.filter (by simp [ended])
  · show Lists _ _ (tickets (g.client.sending.filter (·.1 ≠ d.ticket)))
    rw [tickets_filter]
    exact hp.sending.filter (by simp [ended])

/-- A permit is given back. -/
theorem handOn (hp : Placed h g) : Placed (h ++ g.release.1) g.release.2 := by
  cases line : g.client.waiting with
  | nil =>
    rw [release_of_nil line, List.append_nil]
    exact ⟨hp.roll, hp.waiting, hp.admitted, hp.sending⟩
  | cons first rest =>
    rw [release_of_cons line]
    exact hp.advance line

/-- No call has two permits. -/
theorem holders_nodup (hp : Placed h g) : g.holders.Nodup := by
  refine List.nodup_append.mpr ⟨hp.admitted.nodup, hp.sending.nodup, ?_⟩
  rintro t admitted t' sending rfl
  have one := (hp.admitted.mem_iff t).mp admitted
  rw [(hp.sending.mem_iff t).mp sending] at one
  cases one

/-- A call that has a permit has begun. -/
theorem begun_of_holder (hp : Placed h g) (there : t ∈ g.holders) : phase? h t ≠ none := by
  rcases List.mem_append.mp there with admitted | sending
  · simp [(hp.admitted.mem_iff t).mp admitted]
  · simp [(hp.sending.mem_iff t).mp sending]

/-- A list of the gate is as long as what is seen of the phase. -/
theorem length_during {p : Phase} {ts : List Nat} (hp : Placed h g) (lists : Lists h p ts) :
    (during h p).length = ts.length := by
  have once : (during h p).Nodup := hp.roll.nodup.filter _
  refine List.Perm.length_eq ((List.perm_ext_iff_of_nodup once lists.nodup).mpr ?_)
  intro t
  rw [during, List.mem_filter, decide_eq_true_eq, lists.mem_iff]
  constructor
  · exact fun there => there.2
  · intro phase
    exact ⟨hp.roll.known t (by simp [phase]), phase⟩

end Placed

/-! ### The number of permits -/

/-- **The permits are all there.** -/
structure Registered (c : Config) (h : List Deed) (g : Gate) : Prop where
  placed : Placed h g
  permits : g.free + g.holders.length = (Client.new c).permits
  /-- A permit is free only if nobody waits for it. -/
  served : g.client.waiting = [] ∨ g.free = 0

theorem holders_remove (g : Gate) (t : Nat) :
    (g.remove t).holders = g.holders.filter (· ≠ t) := by
  show tickets (g.admitted.filter _) ++ tickets (g.client.sending.filter _) = _
  rw [tickets_filter, tickets_filter, holders, List.filter_append]

/-- Taking out a call that has a permit leaves one call less. -/
theorem length_holders_remove (nodup : g.holders.Nodup) (there : t ∈ g.holders) :
    (g.remove t).holders.length + 1 = g.holders.length := by
  rw [holders_remove]
  exact length_filter_of_mem nodup there

namespace Registered

theorem begin (c : Config) : Registered c [] (.new c) where
  placed := ⟨.begin, .begin, .begin, .begin⟩
  permits := rfl
  served := Or.inl rfl

/-- The permit that is given back is free, or it has a new call. -/
theorem handOn (placed : Placed h g) (one : g.free + g.holders.length + 1 = (Client.new c).permits)
    (served : g.client.waiting = [] ∨ g.free = 0) :
    Registered c (h ++ g.release.1) g.release.2 := by
  refine ⟨placed.handOn, ?_, ?_⟩
  · cases line : g.client.waiting with
    | nil =>
      rw [release_of_nil line]
      show g.free + 1 + g.holders.length = _
      omega
    | cons first rest =>
      rw [release_of_cons line]
      rw [length_holders] at one ⊢
      show g.free + ((g.admitted ++ [first]).length + g.client.sending.length) = _
      rw [List.length_append, List.length_singleton]
      omega
  · cases line : g.client.waiting with
    | nil =>
      rw [release_of_nil line]
      exact Or.inl line
    | cons first rest =>
      rw [release_of_cons line]
      exact Or.inr (served.resolve_left (by simp [line]))

theorem step (hr : Registered c h g) (made : Step h g seen g') :
    Registered c (h ++ seen) g' := by
  obtain ⟨placed, permits, served⟩ := hr
  cases made with
  | @enter t m new free =>
    -- nobody waits, so whoever gets into the line is the first one there
    have nobody : g.client.waiting = [] := served.resolve_right (Nat.ne_of_gt free)
    have entered := (placed.queue (m := m) new).advance (congrArg (· ++ [(t, m)]) nobody)
    refine ⟨?_, ?_, Or.inl nobody⟩
    · rw [List.append_assoc] at entered
      exact ⟨entered.roll, by rw [nobody]; exact entered.waiting, entered.admitted, entered.sending⟩
    · rw [length_holders] at permits ⊢
      show g.free - 1 + ((g.admitted ++ [(t, m)]).length + g.client.sending.length) = _
      rw [List.length_append, List.length_singleton]
      omega
  | queue new none => exact ⟨placed.queue new, permits, Or.inr none⟩
  | @ask t m there =>
    refine ⟨placed.ask there, ?_, served⟩
    -- the call has the permit that it had
    have count := length_filter_of_mem placed.admitted.nodup (mem_tickets there)
    rw [← tickets_filter, tickets, tickets, List.length_map, List.length_map] at count
    rw [length_holders] at permits ⊢
    show g.free + ((g.admitted.filter (·.1 ≠ t)).length +
      (g.client.sending ++ [(t, m, Sending.start)]).length) = _
    rw [List.length_append, List.length_singleton]
    omega
  | @fail t f =>
    rw [List.append_nil]
    refine ⟨⟨placed.roll, placed.waiting, placed.admitted, ?_⟩, ?_, served⟩
    · show Lists _ _ (tickets (g.client.update t f).sending)
      rw [tickets_update]
      exact placed.sending
    · show g.free + (tickets g.admitted ++ tickets (g.client.update t f).sending).length = _
      rw [tickets_update]
      exact permits
  | @rest t m s there =>
    refine ⟨placed.rest there, ?_, served⟩
    show g.free + (tickets g.admitted ++
      tickets (g.client.update t Sending.rested).sending).length = _
    rw [tickets_update]
    exact permits
  | @leave t d there own ended =>
    subst own
    have removed := placed.remove (placed.begun_of_holder there) ended
    have count := length_holders_remove placed.holders_nodup there
    -- without the call one permit is missing, until it is handed on
    have released : Registered c (h ++ [d] ++ (g.remove d.ticket).release.1)
        (g.remove d.ticket).release.2 := by
      refine handOn removed ?_ (served.imp_left fun nobody => ?_)
      · show g.free + (g.remove d.ticket).holders.length + 1 = _
        omega
      · show g.client.waiting.filter _ = []
        rw [nobody]
        rfl
    rwa [List.append_assoc] at released
  | @resign t there without =>
    have waits := (placed.waiting.mem_iff t).mp there
    refine ⟨placed.remove (d := .abandoned t) (by simp [Deed.ticket, waits]) rfl, ?_,
      served.imp_left fun nobody => ?_⟩
    · -- it had no permit that could be given back
      rw [holders_remove, filter_of_not_mem without]
      exact permits
    · rw [nobody] at there
      cases there

end Registered

/-- **The permits are all there after every run.** -/
theorem Run.registered (run : Run c h g) : Registered c h g := by
  induction run with
  | begin => exact .begin c
  | move _ proper made ih => exact ih.step (step_of_step? proper made)

/-! ### Moves without a request -/

/-- **Nothing is requested**, and no other call makes requests now. Whoever is in the line or has a
permit was there before, or has just called. -/
structure Silent (g : Gate) (seen : List Deed) (g' : Gate) : Prop where
  requests : requests seen = []
  callers : g'.client.waiting ++ g'.admitted ⊆ g.client.waiting ++ g.admitted ++ calls seen
  sending : g'.messages ⊆ g.messages
  log : g'.client.requests = g.client.requests

namespace Silent

/-- Giving a permit back moves a call from the line to those that have a permit, and does nothing
else. -/
theorem handOn (g : Gate) : Silent g g.release.1 g.release.2 := by
  cases line : g.client.waiting with
  | nil =>
    rw [release_of_nil line]
    exact ⟨rfl, List.subset_append_left .., List.Subset.refl _, rfl⟩
  | cons first rest =>
    rw [release_of_cons line]
    refine ⟨rfl, ?_, List.Subset.refl _, rfl⟩
    intro e there
    rw [line]
    simp only [List.mem_append, List.mem_cons, List.not_mem_nil, or_false] at there ⊢
    -- it was in front, farther behind, or had a permit before
    rcases there with waits | has | rfl
    · exact Or.inl (Or.inl (Or.inr waits))
    · exact Or.inl (Or.inr has)
    · exact Or.inl (Or.inl (Or.inl rfl))

theorem remove {d : Deed} (ended : d.phase = .ended) (g : Gate) (t : Nat) :
    Silent g [d] (g.remove t) where
  requests := by
    cases d with
    | returned | abandoned => rfl
    | _ => cases ended
  callers := by
    have line : g.client.waiting.filter (·.1 ≠ t) ⊆ g.client.waiting := List.filter_subset_self _
    have places : g.admitted.filter (·.1 ≠ t) ⊆ g.admitted := List.filter_subset_self _
    intro e there
    have old := (List.mem_append.mp there).imp (@line e) (@places e)
    exact List.mem_append_left _ (List.mem_append.mpr old)
  sending := List.map_subset _ (List.filter_subset_self _)
  log := rfl

/-- A call that leaves requests nothing, and neither does the call that gets its permit. -/
theorem leave {d : Deed} (ended : d.phase = .ended) (g : Gate) (t : Nat) :
    Silent g (g.leave t d).1 (g.leave t d).2 := by
  have gone := remove ended g t
  have after := handOn (g.remove t)
  constructor
  · show Gate.requests ([d] ++ (g.remove t).release.1) = []
    rw [requests_append, gone.requests, after.requests]
    rfl
  · intro e there
    show e ∈ _ ++ calls ([d] ++ (g.remove t).release.1)
    rw [calls_append, ← List.append_assoc]
    refine List.mem_append.mpr ((List.mem_append.mp (after.callers there)).imp_left ?_)
    exact fun old => gone.callers old
  · exact List.Subset.trans after.sending gone.sending
  · exact after.log

end Silent

/-- A move is silent, or a call with a permit makes its first request, or another one. -/
theorem Step.silent_or_asks (made : Step h g seen g') :
    Silent g seen g' ∨
      (∃ t m, (t, m) ∈ g.admitted ∧ seen = [.requested t m] ∧
        g' = { g with
          client := g.client.grant t m
          admitted := g.admitted.filter (·.1 ≠ t) }) ∨
      (∃ t m s, (t, m, s) ∈ g.client.sending ∧ seen = [.requested t m] ∧
        g' = { g with client :=
          { g.client.update t Sending.rested with requests := (t, m) :: g.client.requests } }) := by
  cases made with
  | ask there => exact Or.inr (Or.inl ⟨_, _, there, rfl, rfl⟩)
  | rest there => exact Or.inr (Or.inr ⟨_, _, _, there, rfl, rfl⟩)
  | enter =>
    refine Or.inl ⟨rfl, ?_, List.Subset.refl _, rfl⟩
    rw [List.append_assoc]
    exact List.Subset.refl _
  | queue =>
    refine Or.inl ⟨rfl, ?_, List.Subset.refl _, rfl⟩
    intro e there
    simp only [List.mem_append] at there ⊢
    exact or_right_comm.mp there
  | @fail t f =>
    refine Or.inl ⟨rfl, List.subset_append_left .., ?_, rfl⟩
    rw [messages_update]
    exact List.Subset.refl _
  | leave _ _ ended => exact Or.inl (.leave ended g _)
  | resign => exact Or.inl (.remove rfl g _)

/-! ### Messages -/

/-- **Requests have the messages of their calls**, and so have all calls at the gate. -/
structure Genuine (h : List Deed) (g : Gate) : Prop where
  callers : g.client.waiting ++ g.admitted ⊆ calls h
  sending : g.messages ⊆ calls h
  asked : requests h ⊆ calls h
  /-- The client knows all requests, the newest first. -/
  log : g.client.requests = (requests h).reverse

namespace Genuine

theorem begin (c : Config) : Genuine [] (.new c) :=
  ⟨List.nil_subset _, List.nil_subset _, List.nil_subset _, rfl⟩

theorem silent (hg : Genuine h g) (hs : Silent g seen g') : Genuine (h ++ seen) g' := by
  have same : requests (h ++ seen) = requests h := requests_still hs.requests
  have grown : calls h ⊆ calls (h ++ seen) := by
    rw [calls_append]
    exact List.subset_append_left ..
  have known : g.client.waiting ++ g.admitted ++ calls seen ⊆ calls (h ++ seen) := by
    rw [calls_append]
    refine List.append_subset.mpr ⟨?_, List.subset_append_right ..⟩
    exact List.Subset.trans hg.callers (List.subset_append_left ..)
  refine ⟨List.Subset.trans hs.callers known, ?_, ?_, ?_⟩
  · exact List.Subset.trans hs.sending (List.Subset.trans hg.sending grown)
  · rw [same]
    exact List.Subset.trans hg.asked grown
  · rw [same, hs.log]
    exact hg.log

/-- A request is made for a call at the gate. -/
theorem asks (hg : Genuine h g) {m : Message} (own : (t, m) ∈ calls h)
    (callers : g'.client.waiting ++ g'.admitted ⊆ g.client.waiting ++ g.admitted)
    (sending : g'.messages ⊆ (t, m) :: g.messages)
    (log : g'.client.requests = (t, m) :: g.client.requests) :
    Genuine (h ++ [.requested t m]) g' := by
  have same : calls (h ++ [.requested t m]) = calls h := calls_still rfl
  have known {l : List (Nat × Message)} (old : l ⊆ calls h) : (t, m) :: l ⊆ calls h :=
    List.cons_subset.mpr ⟨own, old⟩
  constructor
  · rw [same]
    exact List.Subset.trans callers hg.callers
  · rw [same]
    exact List.Subset.trans sending (known hg.sending)
  · rw [same, requests_requested]
    exact List.append_subset.mpr ⟨hg.asked, known (List.nil_subset _)⟩
  · rw [requests_requested, log, hg.log, List.reverse_append]
    rfl

theorem step (hg : Genuine h g) (made : Step h g seen g') : Genuine (h ++ seen) g' := by
  rcases made.silent_or_asks with silent | ⟨t, m, there, rfl, rfl⟩ | ⟨t, m, s, there, rfl, rfl⟩
  · exact hg.silent silent
  · refine hg.asks (hg.callers (List.mem_append_right _ there)) ?_ ?_ rfl
    · have places : g.admitted.filter (·.1 ≠ t) ⊆ g.admitted := List.filter_subset_self _
      intro e old
      exact List.mem_append.mpr ((List.mem_append.mp old).imp_right (@places e))
    · intro e sends
      -- the call comes behind those that have asked before
      simp only [messages, Client.grant, List.map_append, List.map_cons, List.map_nil] at sends
      rcases List.mem_append.mp sends with old | new
      · exact List.mem_cons_of_mem _ old
      · rw [List.mem_singleton.mp new]
        exact List.mem_cons_self
  · have own : (t, m) ∈ g.messages := List.mem_map.mpr ⟨_, there, rfl⟩
    refine hg.asks (hg.sending own) (List.Subset.refl _) ?_ rfl
    have same := g.messages_update t Sending.rested
    exact same ▸ List.subset_cons_self ..

end Genuine

theorem Run.genuine (run : Run c h g) : Genuine h g := by
  induction run with
  | begin => exact .begin c
  | move _ proper made ih => exact ih.step (step_of_step? proper made)

/-! ### Requests of one call -/

/-- **Between two requests of one call there is none of another call.** -/
def Together (rs : List (Nat × Message)) : Prop :=
  ∀ r s r', [r, s, r'].Sublist rs → r.1 = r'.1 → s.1 = r.1

/-- A request comes behind the others. It is the first one of its call, or the last one before it
was of the same call. -/
theorem Together.snoc {rs : List (Nat × Message)} (together : Together rs) {x : Nat × Message}
    (next : x.1 ∉ tickets rs ∨ rs.getLast? = some x) : Together (rs ++ [x]) := by
  intro r s r' sub same
  obtain ⟨front, back, split, hfront, hback⟩ := List.sublist_append_iff.mp sub
  rcases List.sublist_singleton.mp hback with rfl | rfl
  · -- all three came before
    rw [List.append_nil] at split
    exact together r s r' (split ▸ hfront) same
  · have whole : [r, s] ++ [r'] = front ++ [x] := split
    obtain ⟨rfl, last⟩ := List.append_inj' whole rfl
    obtain rfl : r' = x := List.singleton_inj.mp last
    rcases next with first | repeated
    · -- no request of this call came before
      have there : r ∈ rs := hfront.subset List.mem_cons_self
      exact absurd (same ▸ List.mem_map_of_mem (f := (·.1)) there) first
    · obtain ⟨before, rfl⟩ := List.getLast?_eq_some_iff.mp repeated
      obtain ⟨front', back', split', hfront', hback'⟩ := List.sublist_append_iff.mp hfront
      rcases List.sublist_singleton.mp hback' with rfl | rfl
      · -- the one between came before the last one, which is of the same call
        rw [List.append_nil] at split'
        refine together r s r' ?_ same
        exact (split' ▸ hfront').append (List.Sublist.refl [r'])
      · have two : [r] ++ [s] = front' ++ [r'] := split'
        obtain ⟨-, between⟩ := List.append_inj' two rfl
        rw [List.singleton_inj.mp between]
        exact same.symm

/-- **With one permit** the last request is that of the call that makes requests. -/
structure Orderly (h : List Deed) (g : Gate) : Prop where
  together : Together (requests h)
  last : ∀ r ∈ g.messages, (requests h).getLast? = some r

namespace Orderly

theorem silent (ho : Orderly h g) (hs : Silent g seen g') : Orderly (h ++ seen) g' := by
  have same : requests (h ++ seen) = requests h := requests_still hs.requests
  constructor
  · rw [same]
    exact ho.together
  · intro r there
    rw [same]
    exact ho.last r (hs.sending there)

theorem step (ho : Orderly h g) (hr : Registered c h g) (single : (Client.new c).permits = 1)
    (made : Step h g seen g') : Orderly (h ++ seen) g' := by
  rcases made.silent_or_asks with silent | ⟨t, m, there, rfl, rfl⟩ | ⟨t, m, s, there, rfl, rfl⟩
  · exact ho.silent silent
  · have listed : t ∈ tickets g.admitted := mem_tickets there
    have has : phase? h t = some .admitted := (hr.placed.admitted.mem_iff t).mp listed
    -- the one permit is that of the call, so nobody else makes requests
    have nobody : g.client.sending = [] := by
      have count := hr.permits
      have pos : 0 < g.admitted.length := List.length_pos_of_mem there
      rw [single, length_holders] at count
      refine List.length_eq_zero_iff.mp ?_
      omega
    have first : t ∉ tickets (requests h) := by
      intro asked
      obtain ⟨r, hr', own⟩ := List.mem_map.mp asked
      have phase := hr.placed.roll.asked r hr'
      rw [own, has] at phase
      simp at phase
    constructor
    · rw [requests_requested]
      exact ho.together.snoc (Or.inl first)
    · intro r sends
      simp only [messages, Client.grant, nobody, List.nil_append, List.map_cons, List.map_nil,
        List.mem_singleton] at sends
      rw [requests_requested, sends]
      exact List.getLast?_concat
  · have own : (t, m) ∈ g.messages := List.mem_map.mpr ⟨_, there, rfl⟩
    have repeated : (requests h).getLast? = some (t, m) := ho.last _ own
    constructor
    · rw [requests_requested]
      exact ho.together.snoc (Or.inr repeated)
    · intro r sends
      have same := g.messages_update t Sending.rested
      have old : r ∈ g.messages := same ▸ sends
      -- whoever makes requests has made the last one
      obtain rfl : (t, m) = r := Option.some.inj (repeated.symm.trans (ho.last r old))
      rw [requests_requested]
      exact List.getLast?_concat

end Orderly

theorem Run.orderly (run : Run c h g) (single : (Client.new c).permits = 1) : Orderly h g := by
  induction run with
  | begin =>
    refine ⟨fun r s r' sub _ => ?_, fun r there => absurd there List.not_mem_nil⟩
    exact absurd sub (by simp [requests])
  | move run proper made ih => exact ih.step run.registered single (step_of_step? proper made)

/-! ### Callers keep apart -/

/-- Requests of one call are one and the same. -/
theorem Genuine.eq_of_ticket (hg : Genuine h g) (roll : Roll h) {r s : Nat × Message}
    (hr : r ∈ requests h) (hs : s ∈ requests h) (same : r.1 = s.1) : r = s :=
  List.inj_on_of_nodup_map roll.nodup (hg.asked hr) (hg.asked hs) same

/-- With one permit a request between two requests of a call is that request once more. -/
theorem Run.contiguous (run : Run c h g) (single : (Client.new c).permits = 1)
    {r s r' : Nat × Message} (sub : [r, s, r'].Sublist (requests h)) (same : r.1 = r'.1) :
    s = r := by
  have between := (run.orderly single).together r s r' sub same
  exact run.genuine.eq_of_ticket run.registered.placed.roll (sub.subset (by simp))
    (sub.subset (by simp)) between

/-- **The calls to one client keep apart.** -/
structure Apart (c : Config) (h : List Deed) (g : Gate) : Prop where
  /-- A call that is over, however it has ended, has no permit. -/
  ended : ∀ t, phase? h t = some .ended → g.holds t = false
  /-- So every permit is free or that of one call in progress. -/
  permits : g.free + (during h .admitted).length + (during h .underway).length
    = max 1 c.openRequests.toNat
  /-- There are never more calls between their first request and their end than permits. -/
  overlap : (during h .underway).length ≤ max 1 c.openRequests.toNat
  /-- A permit that is given back goes to a call that waits, if there is one. -/
  served : during h .waiting ≠ [] → g.free = 0
  /-- The requests of a call have its message, whatever else is requested. -/
  genuine : requests h ⊆ calls h ∧ (tickets (calls h)).Nodup
  /-- With one permit no request of another call comes between two requests of a call. -/
  contiguous : c.openRequests.toNat ≤ 1 →
    ∀ r s r', [r, s, r'].Sublist (requests h) → r.1 = r'.1 → s = r
  /-- There is one permit under settings without a defect. -/
  validated : ∀ e s, s.defect? = none → Config.ofSettings e s = .ok c → c.openRequests.toNat = 1

/-- Settings without a defect ask for one permit. -/
theorem openRequests_of_fit {e : Endpoint} {s : Settings} (sound : s.defect? = none)
    (config : Config.ofSettings e s = .ok c) : c.openRequests.toNat = 1 := by
  have one : s.openRequests.toNat = 1 := (Settings.defect?_eq_none.mp sound).openRequests
  have some : s.openRequests ≠ 0 := by
    intro none
    rw [none] at one
    cases one
  rw [(Config.follows_of_ofSettings config).openRequests, if_neg some]
  exact one

/-- **The calls to a client keep apart**, whoever calls, and in whatever order requests are made,
answered, repeated and abandoned. -/
theorem publishes_apart (run : Run c h g) : Apart c h g := by
  obtain ⟨placed, permits, served⟩ := run.registered
  have genuine := run.genuine
  have number : (Client.new c).permits = max 1 c.openRequests.toNat := Nat.max_comm ..
  have admitted := placed.length_during placed.admitted
  have sending := placed.length_during placed.sending
  rw [number, holders, List.length_append] at permits
  refine ⟨?_, ?_, ?_, ?_, ⟨genuine.asked, placed.roll.nodup⟩, ?_, fun e s => openRequests_of_fit⟩
  · intro t ended
    refine Bool.eq_false_iff.mpr fun holds => ?_
    rcases List.mem_append.mp (holds_iff.mp holds) with there | there
    · exact placed.admitted.absent (by simp [ended]) there
    · exact placed.sending.absent (by simp [ended]) there
  · omega
  · omega
  · intro waits
    refine served.resolve_left fun nobody => waits (List.length_eq_zero_iff.mp ?_)
    rw [placed.length_during placed.waiting, nobody]
    rfl
  · intro single r s r' sub same
    exact run.contiguous (by omega) sub same

namespace Rehearsal

/-- One permit, and one request more after a failure. -/
def config : Config := { Config.default with openRequests := 1, retries := 1 }

/-- A message with an id. -/
def message (id : String) : Message := ⟨"topic", none, id, ByteArray.empty⟩

/-- The first request of the first call fails. Meanwhile the second call is abandoned in the line,
and the third one, which has waited behind it, is abandoned after its first request. -/
def moves : List Move :=
  [.client (.call 0 (message "a")), .client (.call 1 (message "b")),
    .client (.call 2 (message "c")), .ask 0, .ask 1,
    .client (.answer 0 (.error (.connection "lost"))), .client (.abandon 1), .ask 2,
    .client (.rested 0), .client (.answer 0 (.ok 7)), .ask 2, .client (.call 3 (message "d")),
    .client (.abandon 2)]

/-- What is seen of it, and what comes of it. -/
def outcome : List Deed × Gate := play config moves

end Rehearsal

theorem rehearsal_apart :
    (tickets (requests Rehearsal.outcome.1), Rehearsal.outcome.2.free,
        during Rehearsal.outcome.1 .admitted, during Rehearsal.outcome.1 .ended)
      = ([0, 0, 2], 0, [3], [0, 1, 2]) ∧
      Apart Rehearsal.config Rehearsal.outcome.1 Rehearsal.outcome.2 :=
  ⟨rfl, publishes_apart (run_play ..)⟩

end Gate

/-! ### A client without the gate -/

namespace Client

variable {c : Config} {d : Client} {t : Nat}

/-- **Runs of a client**, with the tickets of the calls that have begun; none is used twice. -/
inductive Run (c : Config) : List Nat → Client → Prop where
  | begin : Run c [] (.new c)
  | call {ts : List Nat} {t : Nat} {m : Message} {d d' : Client} (run : Run c ts d) (new : t ∉ ts)
      (made : d.step? (.call t m) = some d') : Run c (ts ++ [t]) d'
  | move {ts : List Nat} {m : Move} {d d' : Client} (run : Run c ts d) (noCall : m.message? = none)
      (made : d.step? m = some d') : Run c ts d'

/-- Nobody is given a permit if nobody waits, or if there is none. -/
theorem pass_eq_self (idle : d.waiting = [] ∨ d.permits ≤ d.sending.length) : d.pass = d := by
  unfold pass
  split
  · rfl
  · next first =>
    have full := idle.resolve_left (by simp [first])
    exact if_neg (Nat.not_lt.mpr full)

/-- A free permit goes to the first in the line. -/
theorem pass_of_waiting {m : Message} {rest : List (Nat × Message)}
    (first : d.waiting = (t, m) :: rest) (free : d.sending.length < d.permits) :
    d.pass = { d with waiting := rest }.grant t m := by
  simp only [pass, first]
  exact if_pos free

/-- Taking out a call that has no permit leaves the permits as they are. -/
theorem remove_of_not_mem (without : t ∉ Gate.tickets d.sending) :
    d.remove t = { d with waiting := d.waiting.filter (·.1 ≠ t) } := by
  rw [remove, Gate.filter_of_absent without]

end Client

namespace Gate

variable {c : Config} {ts : List Nat} {d d' : Client} {h seen : List Deed} {g g' : Gate} {t : Nat}

/-- **A gate without delay**: no call has a permit and has yet to make its first request. -/
structure Prompt (c : Config) (ts : List Nat) (d : Client) (h : List Deed) (g : Gate) : Prop where
  run : Run c h g
  client : g.client = d
  admitted : g.admitted = []
  calls : tickets (calls h) = ts
  permits : d.permits = (Client.new c).permits

namespace Prompt

theorem begin (c : Config) : Prompt c [] (.new c) [] (.new c) :=
  ⟨.begin, rfl, rfl, rfl, rfl⟩

/-- The client can tell from its calls how many permits are free. -/
theorem free (hp : Prompt c ts d h g) : g.free + d.sending.length = d.permits := by
  have count := hp.run.registered.permits
  rw [length_holders, hp.admitted, hp.client, List.length_nil, Nat.zero_add] at count
  exact count.trans hp.permits.symm

/-- Nobody waits for a free permit. -/
theorem idle (hp : Prompt c ts d h g) : d.waiting = [] ∨ d.permits ≤ d.sending.length := by
  have served := hp.run.registered.served
  rw [hp.client] at served
  refine served.imp_right fun none => ?_
  have count := hp.free
  omega

/-- A call that has got a permit makes its first request at once. -/
theorem ask {m : Message} (run : Run c h g) (one : g.admitted = [(t, m)])
    (client : g.client.grant t m = d) (began : tickets (Gate.calls h) = ts)
    (permits : g.client.permits = (Client.new c).permits) : ∃ h' g', Prompt c ts d h' g' := by
  subst client
  have made : g.step? (.ask t)
      = some ([.requested t m], { g with client := g.client.grant t m, admitted := [] }) := by
    simp [step?, one]
  refine ⟨_, _, run.move (m := .ask t) trivial made, rfl, rfl, ?_, permits⟩
  rw [calls_still rfl, began]

theorem call {m : Message} (hp : Prompt c ts d h g) (new : t ∉ ts)
    (made : d.step? (.call t m) = some d') : ∃ h' g', Prompt c (ts ++ [t]) d' h' g' := by
  have number := hp.free
  have idle := hp.idle
  obtain ⟨run, rfl, admitted, rfl, permits⟩ := hp
  simp only [Client.step?] at made
  split at made
  · next spare =>
    -- the call finds a permit
    have free : 0 < g.free := by omega
    have entered := run.move (m := .client (.call t m)) new (if_pos free)
    refine ask entered ?_ (Option.some.inj made) ?_ permits
    · show g.admitted ++ [(t, m)] = _
      rw [admitted]
      rfl
    · rw [calls_append, tickets_append]
      rfl
  · next busy =>
    obtain rfl := Option.some.inj made
    have none : ¬ 0 < g.free := by
      intro free
      have spare : g.client.sending.length < g.client.permits := by omega
      exact busy ⟨spare, idle.resolve_right (Nat.not_le.mpr spare)⟩
    have queued := run.move (m := .client (.call t m)) new (if_neg none)
    refine ⟨_, _, queued, rfl, admitted, ?_, permits⟩
    rw [calls_append, tickets_append]
    rfl

/-- A call that has a permit returns or is abandoned, and the call that gets the permit makes its
first request. -/
theorem leave {m : Move} {e : Deed} (hp : Prompt c ts d h g) (there : t ∈ g.holders)
    (other : e.call? = none) (proper : m.Proper h) (made : g.step? m = some (g.leave t e)) :
    ∃ h' g', Prompt c ts (d.remove t).pass h' g' := by
  have number := hp.free
  have count := length_holders_remove hp.run.registered.placed.holders_nodup there
  obtain ⟨run, rfl, admitted, rfl, permits⟩ := hp
  have left : g.step? m = some (e :: (g.remove t).release.1, (g.remove t).release.2) := made
  have nobody : (g.remove t).admitted = [] := by
    show g.admitted.filter _ = []
    rw [admitted]
    rfl
  have began (back : List Deed) (silent : Gate.calls back = []) :
      tickets (Gate.calls (h ++ e :: back)) = tickets (Gate.calls h) := by
    have none : Gate.calls (e :: back) = [] := (List.filterMap_cons_none other).trans silent
    rw [calls_still none]
  cases line : (g.client.remove t).waiting with
  | nil =>
    -- the permit is free
    rw [Client.pass_eq_self (Or.inl line)]
    rw [release_of_nil (g := g.remove t) line] at left
    exact ⟨_, _, run.move proper left, rfl, nobody, began [] rfl, permits⟩
  | cons first rest =>
    obtain ⟨t', m'⟩ := first
    have spare : (g.client.remove t).sending.length < g.client.permits := by
      have after : (g.remove t).holders.length = (g.client.remove t).sending.length := by
        rw [length_holders, nobody, List.length_nil, Nat.zero_add]
        rfl
      rw [after, length_holders, admitted, List.length_nil] at count
      omega
    rw [release_of_cons (g := g.remove t) line, nobody] at left
    have granted := Client.pass_of_waiting line spare
    exact ask (run.move proper left) rfl granted.symm (began _ rfl) permits

/-- No permit changes hands. -/
theorem stay {m : Move} (hp : Prompt c ts d h g) (seen : List Deed) (g' : Gate)
    (proper : m.Proper h) (made : g.step? m = some (seen, g')) (silent : Gate.calls seen = [])
    (client : g'.client = d') (admitted : g'.admitted = []) (permits : d'.permits = d.permits) :
    ∃ h' g', Prompt c ts d' h' g' := by
  refine ⟨_, _, hp.run.move proper made, client, admitted, ?_, permits.trans hp.permits⟩
  rw [calls_still silent]
  exact hp.calls

/-- A caller gives up. -/
theorem abandon (hp : Prompt c ts d h g) (t : Nat) :
    ∃ h' g', Prompt c ts (d.remove t).pass h' g' := by
  by_cases there : t ∈ g.holders
  · refine hp.leave (m := .client (.abandon t)) there (e := .abandoned t) rfl trivial ?_
    exact if_pos (holds_iff.mpr there)
  · have without : t ∉ tickets d.sending := by
      rw [← hp.client]
      exact fun sends => there (List.mem_append_right _ sends)
    -- no permit is given back
    have removed := Client.remove_of_not_mem without
    have full : (d.remove t).pass = d.remove t := by
      apply Client.pass_eq_self
      rw [removed]
      exact hp.idle.imp_left fun nobody => by rw [nobody]; rfl
    rw [full]
    by_cases waits : t ∈ tickets d.waiting
    · refine hp.stay (m := .client (.abandon t)) [.abandoned t] (g.remove t)
        trivial ?_ rfl ?_ ?_ rfl
      · have waits' : g.client.waiting.any (·.1 == t) = true := by
          simpa [tickets, hp.client] using waits
        have lacks : ¬ g.holds t = true := mt holds_iff.mp there
        simp only [step?, if_neg lacks, if_pos waits']
      · show g.client.remove t = _
        rw [hp.client]
      · show g.admitted.filter _ = []
        rw [hp.admitted]
        rfl
    · -- the call was over before
      have same : d.remove t = d := by
        rw [removed, filter_of_absent waits]
      rw [same]
      exact ⟨h, g, hp⟩

theorem move {m : Client.Move} (hp : Prompt c ts d h g) (noCall : m.message? = none)
    (made : d.step? m = some d') : ∃ h' g', Prompt c ts d' h' g' := by
  cases m with
  | call => cases noCall
  | answer t r =>
    simp only [Client.step?] at made
    split at made
    · next m s found =>
      split at made
      · next asking =>
        split at made
        · next last =>
          -- the answer is the last one
          have there : t ∈ g.holders :=
            mem_holders_of_sending (mem_of_find? (by rw [hp.client, found]))
          obtain ⟨result, hresult⟩ := Option.isSome_iff_exists.mp last
          obtain rfl := Option.some.inj made
          refine hp.leave (m := .client (.answer t r)) (e := .returned t result) there rfl
            trivial ?_
          simp [step?, hp.client, found, asking, hresult]
        · next more =>
          obtain rfl := Option.some.inj made
          have none : (s.answered d.retries r).result? = none :=
            Option.not_isSome_iff_eq_none.mp more
          refine hp.stay (m := .client (.answer t r)) []
            { g with client := d.update t (Sending.answered d.retries r) }
            trivial ?_ rfl rfl hp.admitted rfl
          simp [step?, hp.client, found, asking, none]
      · cases made
    · cases made
  | rested t =>
    have rested := made
    simp only [Client.step?] at made
    split at made
    · next m n found =>
      refine hp.stay (m := .client (.rested t)) [.requested t m]
        { g with client := d' } trivial ?_ rfl rfl hp.admitted ?_
      · simp only [step?, hp.client, found, rested]
      · rw [← Option.some.inj made]
        rfl
    · cases made
  | abandon t =>
    obtain rfl := Option.some.inj made
    exact hp.abandon t

end Prompt

end Gate

namespace Client

variable {c : Config} {ts : List Nat} {d : Client}

/-- **Whatever happens to a client can happen at its gate.** -/
theorem Run.gate (run : Run c ts d) : ∃ h g, Gate.Prompt c ts d h g := by
  induction run with
  | begin => exact ⟨_, _, .begin c⟩
  | call _ new made ih =>
    obtain ⟨h, g, hp⟩ := ih
    exact hp.call new made
  | move _ noCall made ih =>
    obtain ⟨h, g, hp⟩ := ih
    exact hp.move noCall made

/-- **The calls to one client keep apart**, as far as the client itself knows them. -/
structure Apart (c : Config) (d : Client) : Prop where
  permits : d.free + d.sending.length = max 1 c.openRequests.toNat
  served : d.waiting ≠ [] → d.free = 0
  /-- With one permit the requests of a call follow one another. -/
  contiguous : c.openRequests.toNat ≤ 1 →
    ∀ r s r', [r, s, r'].Sublist d.requests → r.1 = r'.1 → s = r

/-- **The calls to a client keep apart** if each makes its first request as soon as it can. -/
theorem Run.apart (run : Run c ts d) : Apart c d := by
  obtain ⟨h, g, hp⟩ := run.gate
  have number : (Client.new c).permits = max 1 c.openRequests.toNat := Nat.max_comm ..
  have count := hp.free
  have idle := hp.idle
  have permits := hp.permits
  constructor
  · rw [free]
    omega
  · intro waits
    exact Nat.sub_eq_zero_of_le (idle.resolve_left waits)
  · intro single r s r' sub same
    have log : d.requests = (Gate.requests h).reverse := by rw [← hp.client, hp.run.genuine.log]
    rw [log] at sub
    -- the client has the newest request in front
    have forward : [r', s, r].Sublist (Gate.requests h) := by
      have turned := sub.reverse
      rwa [List.reverse_reverse] at turned
    have one : (Client.new c).permits = 1 := by omega
    have last : s = r' := hp.run.contiguous one forward same.symm
    have ends : r = r' := hp.run.genuine.eq_of_ticket hp.run.registered.placed.roll
      (forward.subset (by simp)) (forward.subset (by simp)) same
    rw [last, ends]

end Client

end AuditRelay.Nats
