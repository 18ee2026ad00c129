import AuditRelay.Proofs.Lifecycle

/-!
# Calls that take their time

A call with a log looks at the flag of the pipeline first, and then goes to the queue.
`Pipeline.submit` does both at once. If several threads use a pipeline, then anything may happen in
between, and a call may come to the queue of a pipeline that was disabled after it has looked
(`Pipeline.enter`). `Staggered` are the runs in which this happens, too; every run in which the
calls are made at once is one of them (`Run.staggered`).

* `Staggered.flags` and `Staggered.dispatcher` say that the flags can be read off the calls here as
  well, and that what happens inside is still a run of the dispatcher.
* `Recorded` ties what is seen of the calls with logs to what is seen inside.
-/

namespace AuditRelay.Pipeline

open History

variable {ι β : Type} {g : Supply ι β} {s : Settings} {h₀ h seen : List (Episode ι)}
  {p₀ p p' : Pipeline β} {a : Assignment β}

/-! ### Late calls -/

/-- A call that has found the pipeline enabled goes to the queue, whatever the flag says now. -/
def enter (p : Pipeline β) (t : Nat) (stays : Bool) (l : Log) : Receipt × Pipeline β :=
  (Receipt.ofAdmission (p.dispatcher.submit t stays l).1,
    { p with dispatcher := (p.dispatcher.submit t stays l).2 })

/-- Nothing is thrown away at the queue. -/
theorem enter_ne_discarded (t : Nat) (stays : Bool) (l : Log) :
    (p.enter t stays l).1 ≠ .discarded := by
  rw [enter]
  cases (p.dispatcher.submit t stays l).1 <;> exact nofun

/-- What is seen of a call with a log that gets a receipt. -/
def given (t : Nat) (stays : Bool) (l : Log) (r : Receipt) : List (Episode ι) :=
  .submitted t l r :: (asking t stays l r).map .inside

/-- A call that goes to the queue at once. -/
theorem submit_eq_enter (enabled : p.disabled = false) (t : Nat) (stays : Bool) (l : Log) :
    p.submit t stays l = p.enter t stays l :=
  submit_enabled enabled t stays l

/-- A call may come to the queue that has looked at the flag at any time before. It was not thrown
away then, and so the pipeline was enabled at that time. -/
structure Late (h : List (Episode ι)) (p : Pipeline β) (t : Nat) : Prop where
  able : p.settings.bypass = false
  fresh : t ∉ tickets (inner h)
  new : ∀ l, .submitted t l .discarded ∉ h

/-- **What can happen next** if calls take their time. -/
inductive Next (g : Supply ι β) (h : List (Episode ι)) (p : Pipeline β) :
    List (Episode ι) → Pipeline β → Prop where
  | move {m : Move ι} {seen : List (Episode ι)} {p' : Pipeline β} (proper : m.Proper h)
    (made : p.step? g m = some (seen, p')) : Next g h p seen p'
  /-- A call comes to the queue that has looked at the flag before. -/
  | late {t : Nat} (stays : Bool) (l : Log) (late : Late h p t) :
    Next g h p (given t stays l (p.enter t stays l).1) (p.enter t stays l).2

/-- **Runs in which calls take their time.** -/
inductive Staggered (g : Supply ι β) (h₀ : List (Episode ι)) (p₀ : Pipeline β) :
    List (Episode ι) → Pipeline β → Prop where
  | begin : Staggered g h₀ p₀ h₀ p₀
  | next {h seen : List (Episode ι)} {p p' : Pipeline β} (run : Staggered g h₀ p₀ h p)
    (next : Next g h p seen p') : Staggered g h₀ p₀ (h ++ seen) p'

/-- Calls need not take their time. -/
theorem Run.staggered (run : Run g h₀ p₀ h p) : Staggered g h₀ p₀ h p := by
  induction run with
  | begin => exact .begin
  | move _ proper made ih => exact ih.next (.move proper made)

theorem Staggered.trans {h' : List (Episode ι)} (run : Staggered g h₀ p₀ h p)
    (later : Staggered g h p h' p') : Staggered g h₀ p₀ h' p' := by
  induction later with
  | begin => exact run
  | next _ next ih => exact ih.next next

theorem Staggered.exists_append (run : Staggered g h₀ p₀ h p) : ∃ seen, h = h₀ ++ seen := by
  induction run with
  | begin => exact ⟨[], (List.append_nil h₀).symm⟩
  | @next _ seen _ _ _ _ ih =>
    obtain ⟨seen₁, rfl⟩ := ih
    exact ⟨seen₁ ++ seen, List.append_assoc ..⟩

/-! ### What stays true -/

@[simp] theorem inner_given (t : Nat) (stays : Bool) (l : Log) (r : Receipt) :
    inner (given t stays l r : List (Episode ι)) = asking t stays l r := by
  rw [given, inner_cons rfl, inner_map_inside]

/-- To the dispatcher it is all the same when a call has looked at the flag. -/
theorem Coherent.step?_enter (hc : p.Coherent) (t : Nat) (stays : Bool) (l : Log) :
    p.dispatcher.step? a (.submit t stays l)
      = some (asking t stays l (p.enter t stays l).1, (p.enter t stays l).2.dispatcher) := by
  rw [Dispatcher.step?, if_pos hc.producers, enter]
  cases hr : (p.dispatcher.submit t stays l).1 <;> simp only [asking, Receipt.ofAdmission]

theorem Coherent.next (hc : p.Coherent) (next : Next g h p seen p') : p'.Coherent := by
  cases next with
  | move proper made => exact hc.step (step_of_step? proper made)
  | @late t stays l late =>
    obtain ⟨-, hstage, hproducers, -⟩ := p.dispatcher.submit_frame t stays l
    exact hc.same rfl hstage hproducers

theorem Flags.next (hc : p.Coherent) (hf : Flags s h p) (next : Next g h p seen p') :
    Flags s (h ++ seen) p' := by
  cases next with
  | move proper made => exact hf.step hc (step_of_step? proper made)
  | @late t stays l late =>
    obtain ⟨hworker, -, -, hopen⟩ := p.dispatcher.submit_frame t stays l
    exact hf.still (quiet_submitted t l _ _) rfl rfl rfl (congrArg Worker.cancelled hworker)
      (congrArg (p.assignment.isNone && ·) hopen)

theorem Staggered.flags {broker : β} {ids : IdStream} {around : Surroundings}
    (new : Pipeline.new? s broker ids around = some p₀) (run : Staggered g [] p₀ h p) :
    p.Coherent ∧ Flags s h p := by
  induction run with
  | begin => exact ⟨.begin new, .begin new⟩
  | next _ next ih => exact ⟨ih.1.next next, ih.2.next ih.1 next⟩

/-- What every move of a dispatcher keeps is kept by everything that can happen to its pipeline. -/
theorem Staggered.keeps_dispatcher {Q : List Sight → Dispatcher β → Prop}
    (keeps : ∀ {h seen m d d'}, Q h d → m.Proper h → d.step? a m = some (seen, d') →
      Q (h ++ seen) d')
    (run : Staggered g h₀ p₀ h p) (coherent : p₀.Coherent)
    (begin : p₀.WorksFor a → Q (inner h₀) p₀.dispatcher) :
    p.Coherent ∧ (p.WorksFor a → Q (inner h) p.dispatcher) := by
  induction run with
  | begin => exact ⟨coherent, begin⟩
  | @next h seen p p' _ next ih =>
    refine ⟨ih.1.next next, fun works => ?_⟩
    cases next with
    | move proper made => exact keeps_step keeps ih.1 (step_of_step? proper made) works ih.2
    | late stays l late =>
      rw [inner_append, inner_given]
      exact keeps (m := .submit _ _ _) (ih.2 works) late.fresh (ih.1.step?_enter ..)

/-- **What happens inside is a run of the dispatcher.** -/
theorem Staggered.dispatcher {broker : β} {ids : IdStream} {around : Surroundings}
    (new : Pipeline.new? s broker ids around = some p₀) (run : Staggered g [] p₀ h p)
    (works : p.WorksFor a) : Dispatcher.Run a p₀.dispatcher (inner h) p.dispatcher :=
  (run.keeps_dispatcher (fun run proper made => run.move proper made) (.begin new)
    fun _ => .begin).2 works

/-! ### What is seen of the calls with logs -/

/-- What is seen of the dispatcher and of those who wait brings no log. -/
theorem tickets_of_inside? {m : Dispatcher.Move} {sights : List Sight} {d : Dispatcher β}
    (made : p.inside? m = some (sights, d)) : tickets sights = [] := by
  -- by itself the dispatcher brings none
  have own {seen : List Sight} {d d' : Dispatcher β} (own : Own seen) :
      tickets (d.witnessed seen d').1 = [] := by
    unfold Dispatcher.witnessed
    split
    · exact own.tickets_eq_nil
    · exact (own.append (Dispatcher.own_dismissed d)).tickets_eq_nil
  cases m with
  | comeBack t l =>
    obtain ⟨rfl, -⟩ := Prod.mk.inj (Option.some.inj made)
    split <;> rfl
  | abandon t =>
    obtain ⟨rfl, -⟩ := Prod.mk.inj (Option.some.inj made)
    change tickets (if _ then _ else _) = []
    split
    · exact (Dispatcher.own_served _).tickets_eq_nil
    · rfl
  | wait t =>
    obtain ⟨rfl, -⟩ := Prod.mk.inj (Option.some.inj made)
    rfl
  | proceed =>
    obtain ⟨a, -, hstep⟩ := Option.bind_eq_some_iff.mp made
    obtain ⟨e, he, hw⟩ := Option.map_eq_some_iff.mp hstep
    obtain rfl : (p.dispatcher.witnessed p.dispatcher.working e).1 = sights := congrArg Prod.fst hw
    rcases Dispatcher.turn_or_ending_of_proceed? he with turn | ⟨silent, -⟩
    · exact own turn.own
    · rw [silent]
      exact own .nil
  | quit =>
    obtain ⟨a, -, hstep⟩ := Option.bind_eq_some_iff.mp made
    obtain ⟨e, -, hw⟩ := Option.map_eq_some_iff.mp hstep
    obtain rfl : (p.dispatcher.witnessed p.dispatcher.resigning e).1 = sights :=
      congrArg Prod.fst hw
    exact own (Dispatcher.own_resigning _)
  | _ => exact absurd made (by simp [inside?])

/-- **What is seen of the calls with logs** agrees with what is seen inside. -/
structure Recorded (h : List (Episode ι)) (p : Pipeline β) : Prop where
  /-- A log that is thrown away does not come to the queue, also not later. -/
  discarded : ∀ t l, .submitted t l .discarded ∈ h → p.disabled = true ∧ t ∉ tickets (inner h)
  asked : ∀ t l r, .submitted t l r ∈ h → r ≠ .discarded → (t, l) ∈ asked (inner h)
  accepted : ∀ t l, .submitted t l .accepted ∈ h → (t, true) ∈ decisions (inner h)
  closed : ∀ t l, .submitted t l .closed ∈ h → (t, false) ∈ decisions (inner h)
  /-- Whoever comes to the queue is ready to wait. -/
  unoffered : ∀ t l r, .offered t l r ∉ inner h

theorem Recorded.begin : Recorded ([] : List (Episode ι)) p :=
  ⟨nofun, nofun, nofun, nofun, nofun⟩

/-- No log is given. -/
theorem Recorded.still (hr : Recorded h p) (none : ∀ t l r, .submitted t l r ∉ seen)
    (silent : tickets (inner seen) = []) (lasting : p.disabled = true → p'.disabled = true) :
    Recorded (h ++ seen) p' := by
  have old {t : Nat} {l : Log} {r : Receipt} (mem : .submitted t l r ∈ h ++ seen) :
      .submitted t l r ∈ h := (List.mem_append.mp mem).resolve_right (none t l r)
  refine ⟨fun t l mem => ?_, fun t l r mem kept => ?_, fun t l mem => ?_, fun t l mem => ?_,
    fun t l r mem => ?_⟩
  · obtain ⟨disabled, unused⟩ := hr.discarded t l (old mem)
    rw [inner_append, tickets_append, silent, List.append_nil]
    exact ⟨lasting disabled, unused⟩
  · rw [inner_append, asked_append]
    exact List.mem_append_left _ (hr.asked t l r (old mem) kept)
  · rw [inner_append, decisions_append]
    exact List.mem_append_left _ (hr.accepted t l (old mem))
  · rw [inner_append, decisions_append]
    exact List.mem_append_left _ (hr.closed t l (old mem))
  · rw [inner_append] at mem
    rcases List.mem_append.mp mem with mem | mem
    · exact hr.unoffered t l r mem
    · have : t ∈ tickets (inner seen) := List.mem_filterMap.mpr ⟨_, mem, rfl⟩
      rw [silent] at this
      exact absurd this List.not_mem_nil

/-- A log is thrown away. -/
theorem Recorded.discard (hr : Recorded h p) (disabled : p.disabled = true)
    (same : p'.disabled = p.disabled) {t : Nat} (fresh : t ∉ tickets (inner h)) (l : Log) :
    Recorded (h ++ [Episode.submitted t l .discarded]) p' := by
  have old {t' : Nat} {l' : Log} {r : Receipt} (kept : r ≠ .discarded)
      (mem : Episode.submitted t' l' r ∈ h ++ [Episode.submitted t l .discarded]) :
      .submitted t' l' r ∈ h := by
    rcases List.mem_append.mp mem with before | last
    · exact before
    · exact absurd (Episode.submitted.inj (List.mem_singleton.mp last)).2.2 kept
  have inside : inner (h ++ [Episode.submitted t l .discarded]) = inner h := by
    rw [inner_append, inner_cons rfl]
    exact List.append_nil _
  refine ⟨fun t' l' mem => ?_, fun t' l' r mem kept => ?_, fun t' l' mem => ?_,
    fun t' l' mem => ?_, ?_⟩
  · rw [inside, same]
    rcases List.mem_append.mp mem with before | last
    · exact hr.discarded t' l' before
    · obtain ⟨rfl, -, -⟩ := Episode.submitted.inj (List.mem_singleton.mp last)
      exact ⟨disabled, fresh⟩
  · rw [inside]
    exact hr.asked t' l' r (old kept mem) kept
  · rw [inside]
    exact hr.accepted t' l' (old nofun mem)
  · rw [inside]
    exact hr.closed t' l' (old nofun mem)
  · rw [inside]
    exact hr.unoffered

/-- A log comes to the queue. -/
theorem Recorded.enter (hr : Recorded h p) {t : Nat} (new : ∀ l, .submitted t l .discarded ∉ h)
    (stays : Bool) (l : Log) :
    Recorded (h ++ given t stays l (p.enter t stays l).1) (p.enter t stays l).2 := by
  have same : (p.enter t stays l).2.disabled = p.disabled := rfl
  have kept : (p.enter t stays l).1 ≠ .discarded := enter_ne_discarded t stays l
  generalize (p.enter t stays l).1 = r at kept ⊢
  -- the call is the only one that is seen
  have which {t' : Nat} {l' : Log} {r' : Receipt}
      (mem : .submitted t' l' r' ∈ (given t stays l r : List (Episode ι))) :
      t' = t ∧ l' = l ∧ r' = r := by
    rcases List.mem_cons.mp mem with heq | mem
    · exact Episode.submitted.inj heq
    · obtain ⟨s, -, heq⟩ := List.mem_map.mp mem
      cases heq
  refine ⟨fun t' l' mem => ?_, fun t' l' r' mem kept' => ?_, fun t' l' mem => ?_,
    fun t' l' mem => ?_, fun t' l' r' mem => ?_⟩
  · rcases List.mem_append.mp mem with before | now
    · obtain ⟨disabled, unused⟩ := hr.discarded t' l' before
      refine ⟨same.trans disabled, fun used => ?_⟩
      rw [inner_append, inner_given, tickets_append] at used
      -- the ticket that is used now is another one
      refine (List.mem_append.mp used).elim unused fun now => ?_
      obtain rfl : t' = t := by cases r <;> first | exact List.mem_singleton.mp now | cases now
      exact new l' before
    · exact absurd (which now).2.2.symm kept
  · rw [inner_append, inner_given, asked_append]
    rcases List.mem_append.mp mem with before | now
    · exact List.mem_append_left _ (hr.asked t' l' r' before kept')
    · obtain ⟨rfl, rfl, rfl⟩ := which now
      refine List.mem_append_right _ ?_
      cases r' with
      | discarded => exact absurd rfl kept
      | _ => exact List.mem_singleton.mpr rfl
  · rw [inner_append, inner_given, decisions_append]
    rcases List.mem_append.mp mem with before | now
    · exact List.mem_append_left _ (hr.accepted t' l' before)
    · obtain ⟨rfl, rfl, rfl⟩ := which now
      exact List.mem_append_right _ (List.mem_singleton.mpr rfl)
  · rw [inner_append, inner_given, decisions_append]
    rcases List.mem_append.mp mem with before | now
    · exact List.mem_append_left _ (hr.closed t' l' before)
    · obtain ⟨rfl, rfl, rfl⟩ := which now
      exact List.mem_append_right _ (List.mem_singleton.mpr rfl)
  · rw [inner_append, inner_given] at mem
    refine (List.mem_append.mp mem).elim (hr.unoffered t' l' r') fun now => ?_
    cases r <;> simp [asking] at now

/-- A call is made at once. -/
theorem Recorded.submit (hr : Recorded h p) {t : Nat} (fresh : t ∉ tickets (inner h))
    (stays : Bool) (l : Log) :
    Recorded (h ++ given t stays l (p.submit t stays l).1) (p.submit t stays l).2 := by
  cases hd : p.disabled with
  | true =>
    rw [submit_disabled hd]
    refine hr.discard hd ?_ fresh l
    rfl
  -- nothing is thrown away before the pipeline is disabled
  | false =>
    rw [submit_eq_enter hd]
    refine hr.enter (fun l' mem => ?_) stays l
    exact absurd ((hr.discarded t l' mem).1.symm.trans hd) (by simp)

theorem not_mem_inside (sights : List Sight) (t : Nat) (l : Log) (r : Receipt) :
    (.submitted t l r : Episode ι) ∉ sights.map .inside := by
  intro mem
  obtain ⟨s, -, heq⟩ := List.mem_map.mp mem
  cases heq

/-- Whoever is sent away brings nothing. -/
theorem tickets_relinquished (p : Pipeline β) : tickets p.relinquished = [] := by
  unfold relinquished
  split
  · exact (Dispatcher.own_dismissed _).tickets_eq_nil
  · rfl

/-- A call to start a pipeline brings no log. -/
theorem Recorded.opened (hr : Recorded h p) (connector : Option ι) (result : Bool × Pipeline β)
    (lasting : p.disabled = true → result.2.disabled = true) :
    Recorded (h ++ (p.opened connector result).1) (p.opened connector result).2 := by
  refine hr.still (fun t l r mem => ?_) ?_ lasting
  · rcases List.mem_cons.mp mem with heq | mem
    · cases heq
    · split at mem
      · exact absurd mem List.not_mem_nil
      · rcases List.mem_cons.mp mem with heq | mem
        · cases heq
        · exact not_mem_inside _ t l r mem
  · rw [Pipeline.opened, inner_cons rfl]
    split
    · rfl
    · rw [inner_cons rfl, inner_map_inside]
      exact tickets_relinquished p

/-- **Whatever happens is recorded.** -/
theorem Recorded.next (hr : Recorded h p) (next : Next g h p seen p')
    (lasting : p.disabled = true → p'.disabled = true) : Recorded (h ++ seen) p' := by
  cases next with
  | late stays l late => exact hr.enter late.new stays l
  | @move m _ _ proper made =>
    cases m with
    | init e =>
      obtain ⟨rfl, rfl⟩ := Prod.mk.inj (Option.some.inj made)
      exact hr.opened _ _ lasting
    | initWith i e =>
      obtain ⟨rfl, rfl⟩ := Prod.mk.inj (Option.some.inj made)
      exact hr.opened _ _ lasting
    | submit t stays l =>
      obtain ⟨rfl, rfl⟩ := Prod.mk.inj (Option.some.inj made)
      exact hr.submit proper stays l
    | shutdown =>
      obtain ⟨rfl, rfl⟩ := Prod.mk.inj (Option.some.inj made)
      refine hr.still (fun t l r mem => ?_) ?_ lasting
      · rcases List.mem_cons.mp mem with heq | mem
        · cases heq
        · exact not_mem_inside _ t l r mem
      · rw [inner_cons rfl, inner_map_inside]
        exact tickets_relinquished p
    | inside m =>
      obtain ⟨⟨sights, d⟩, hinside, heq⟩ := Option.map_eq_some_iff.mp made
      obtain ⟨rfl, rfl⟩ := Prod.mk.inj heq
      refine hr.still (not_mem_inside sights) ?_ lasting
      rw [inner_map_inside]
      exact tickets_of_inside? hinside

/-- No flag that says that a pipeline is disabled is taken back. -/
theorem Flags.disabled_mono (hf : Flags s h p) (hf' : Flags s (h ++ seen) p')
    (disabled : p.disabled = true) : p'.disabled = true :=
  hf'.disabled.mpr ((hf.disabled.mp disabled).imp_right (List.mem_append_left _))

theorem Staggered.recorded {broker : β} {ids : IdStream} {around : Surroundings}
    (new : Pipeline.new? s broker ids around = some p₀) (run : Staggered g [] p₀ h p) :
    Recorded h p := by
  induction run with
  | begin => exact .begin
  | next run next ih =>
    exact ih.next next ((run.flags new).2.disabled_mono ((run.next next).flags new).2)

/-! ### Accepted logs -/

/-- The logs that the queue has accepted are those of calls that were told so. -/
theorem Recorded.decided_of_accepted (hr : Recorded h p) {t : Nat} {l : Log}
    (mem : (t, l) ∈ History.accepted (inner h)) : (t, true) ∈ decisions (inner h) := by
  obtain ⟨s, hs, ha⟩ := List.mem_filterMap.mp mem
  refine List.mem_filterMap.mpr ⟨s, hs, ?_⟩
  cases s with
  | offered t' l' r => exact absurd hs (hr.unoffered t' l' r)
  | admitted t' l' =>
    obtain ⟨rfl, -⟩ := Prod.mk.inj (Option.some.inj ha)
    rfl
  | _ => exact absurd ha (by simp [acceptance?])

end AuditRelay.Pipeline
