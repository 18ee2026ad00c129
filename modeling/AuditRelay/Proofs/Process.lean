import AuditRelay.Proofs.Calls
import AuditRelay.Proofs.Numbering
import Mathlib.Data.List.Nodup

/-!
# Several pipelines in one process

A process may have any number of pipelines, and whatever they do is done in any order. All of them
draw their ids from one source, and they may send to one broker: at its turn (`Process.turn`) a
pipeline finds both as the others have left them.

`Process.Sound` is the invariant. Every id that is drawn is noted with the pipeline that has drawn
it, and those of one pipeline are the ids of its messages (`Dispatcher.Named`). So if the source
never gives an id twice, no two logs have one id, whichever pipelines they belong to
(`Process.one_id_each`). Nothing else is asked of the source.
-/

namespace AuditRelay

open History Pipeline

/-- A process with pipelines that are told apart by an index. -/
structure Process (κ β : Type) where
  /-- Where all pipelines draw their ids from. -/
  ids : IdStream
  /-- What the broker remembers of all of them. -/
  broker : β
  pipelines : κ → Pipeline β

namespace Process

variable {κ ι β : Type} [DecidableEq κ]

/-- A pipeline at its turn. -/
def turn (s : Process κ β) (k : κ) : Pipeline β :=
  let p := s.pipelines k
  { p with dispatcher := { p.dispatcher with
      ids := s.ids
      worker := { p.dispatcher.worker with broker := s.broker } } }

/-- The process when a pipeline has had its turn. -/
def after (s : Process κ β) (k : κ) (p : Pipeline β) : Process κ β :=
  ⟨p.dispatcher.ids, p.dispatcher.worker.broker, Function.update s.pipelines k p⟩

/-- What is seen of a move of one pipeline, and what comes of it. -/
def step? (g : Supply ι β) (k : κ) (m : Pipeline.Move ι) (s : Process κ β) :
    Option (List (Episode ι) × Process κ β) :=
  ((s.turn k).step? g m).map fun (seen, p) => (seen, s.after k p)

/-- **Runs.** Moves of the pipelines in any order; each pipeline has a history of its own. -/
inductive Run (g : Supply ι β) (s₀ : Process κ β) :
    (κ → List (Episode ι)) → Process κ β → Prop where
  | begin : Run g s₀ (fun _ => []) s₀
  | move {h : κ → List (Episode ι)} {s s' : Process κ β} {k : κ} {m : Pipeline.Move ι}
      {seen : List (Episode ι)} (run : Run g s₀ h s) (proper : m.Proper (h k))
      (made : s.step? g k m = some (seen, s')) :
      Run g s₀ (Function.update h k (h k ++ seen)) s'

/-- Makes some moves one after the other. -/
def play (g : Supply ι β) (s₀ : Process κ β) (ms : List (κ × Pipeline.Move ι)) :
    (κ → List (Episode ι)) × Process κ β :=
  ms.foldl (fun r m =>
    if m.2.Proper (r.1 m.1) then
      match r.2.step? g m.1 m.2 with
      | some (seen, s) => (Function.update r.1 m.1 (r.1 m.1 ++ seen), s)
      | none => r
    else r) (fun _ => [], s₀)

/-- What is played is a run. -/
theorem run_play (g : Supply ι β) (s₀ : Process κ β) (ms : List (κ × Pipeline.Move ι)) :
    Run g s₀ (play g s₀ ms).1 (play g s₀ ms).2 := by
  unfold play
  -- by induction on the moves, from any state that a run has reached
  suffices hrun : ∀ r : (κ → List (Episode ι)) × Process κ β, Run g s₀ r.1 r.2 →
      Run g s₀ (ms.foldl _ r).1 (ms.foldl _ r).2 from hrun _ .begin
  induction ms with
  | nil => exact fun r run => run
  | cons m rest ih =>
    intro r run
    rw [List.foldl_cons]
    apply ih
    split
    · next proper =>
      split
      · next made => exact run.move proper made
      · exact run
    · exact run

/-! ### Who has drawn which id -/

/-- The ids that one pipeline has drawn. -/
def namesOf (drawn : List (κ × String)) (k : κ) : List String :=
  (drawn.filter (·.1 = k)).map (·.2)

theorem namesOf_append (drawn new : List (κ × String)) (k : κ) :
    namesOf (drawn ++ new) k = namesOf drawn k ++ namesOf new k := by
  rw [namesOf, List.filter_append, List.map_append]
  rfl

theorem namesOf_own (k : κ) (names : List String) : namesOf (names.map (k, ·)) k = names := by
  induction names with
  | nil => rfl
  | cons name rest ih => simpa [namesOf] using ih

theorem namesOf_other {k k' : κ} (ne : k' ≠ k) (names : List String) :
    namesOf (names.map (k, ·)) k' = [] := by
  simp [namesOf, Ne.symm ne]

theorem mem_of_mem_namesOf {drawn : List (κ × String)} {k : κ} {name : String}
    (mem : name ∈ namesOf drawn k) : (k, name) ∈ drawn := by
  obtain ⟨⟨k', name'⟩, hfilter, rfl⟩ := List.mem_map.mp mem
  obtain ⟨hdrawn, hk⟩ := List.mem_filter.mp hfilter
  obtain rfl := of_decide_eq_true hk
  exact hdrawn

/-- There is always something that a pipeline works for. -/
theorem exists_worksFor (p : Pipeline β) : ∃ a, p.WorksFor a := by
  cases ha : p.assignment with
  | some a =>
    refine ⟨a, fun a' ha' => ?_⟩
    exact Option.some.inj (ha'.symm.trans ha)
  | none =>
    -- a pipeline that was not started works for anything
    let idle : Connector β :=
      ⟨"", "", fun b => (.now (.ok ()) [], b), fun _ b => (.now (.ok 0) [], b), fun _ => 0⟩
    refine ⟨⟨p.settings, idle, p.around⟩, fun a' ha' => ?_⟩
    exact absurd (ha.symm.trans ha') (Option.some_ne_none a').symm

variable {g : Supply ι β} {ids : IdStream} {C : κ → Nat} {drawn : List (κ × String)}
  {h : κ → List (Episode ι)} {s₀ s s' : Process κ β}

/-- **Each id is drawn once**, by the pipeline whose messages bear it. -/
structure Sound (ids : IdStream) (C : κ → Nat) (drawn : List (κ × String))
    (h : κ → List (Episode ι)) (s : Process κ β) : Prop where
  drawn_eq : drawn.map (·.2) = ids.drawMany drawn.length
  left : s.ids = ids.drop drawn.length
  coherent : ∀ k, (s.pipelines k).Coherent
  stock : ∀ k, Dispatcher.Stock (C k) (inner (h k)) (s.pipelines k).dispatcher
  named : ∀ k a, (s.pipelines k).WorksFor a →
    Dispatcher.Named a (namesOf drawn k) (inner (h k)) (s.pipelines k).dispatcher

/-- What a pipeline does at its turn: it may draw ids, and its messages bear them. -/
theorem Sound.turn (hs : Sound ids C drawn h s) {k : κ} {seen : List (Episode ι)} {p : Pipeline β}
    (step : Step g (h k) (s.turn k) seen p) :
    p.Coherent ∧ ∃ n, p.dispatcher.ids = s.ids.drop n ∧
      Dispatcher.Stock (C k) (inner (h k ++ seen)) p.dispatcher ∧
      ∀ a, p.WorksFor a → Dispatcher.Named a (namesOf drawn k ++ s.ids.drawMany n)
        (inner (h k ++ seen)) p.dispatcher := by
  have coherent : (s.turn k).Coherent := (hs.coherent k).same rfl rfl rfl
  -- what is kept by all moves of the dispatcher, whatever it was started for
  have each (a : Assignment β) (works : p.WorksFor a) :
      ∃ n, p.dispatcher.ids = s.ids.drop n ∧
        Dispatcher.Stock (C k) (inner (h k ++ seen)) p.dispatcher ∧
        Dispatcher.Named a (namesOf drawn k ++ s.ids.drawMany n) (inner (h k ++ seen))
          p.dispatcher := by
    refine keeps_step (a := a) (Q := fun h d => ∃ n, d.ids = s.ids.drop n ∧
      Dispatcher.Stock (C k) h d ∧
      Dispatcher.Named a (namesOf drawn k ++ s.ids.drawMany n) h d) ?_ coherent step works ?_
    · rintro h seen m d d' ⟨n, left, stock, named⟩ proper made
      have hstep := Dispatcher.step_of_step? proper made
      obtain ⟨n', left', named'⟩ := named.step stock hstep
      refine ⟨n + n', by rw [left', left, IdStream.drop_drop], stock.step hstep, ?_⟩
      rw [IdStream.drawMany_add, ← left, ← List.append_assoc]
      exact named'
    · intro before
      have stock := hs.stock k
      have named := hs.named k a before
      refine ⟨0, s.ids.drop_zero.symm, ?_, ?_⟩
      · exact ⟨stock.capacity, stock.sound, stock.taken_le, stock.accepted_le, stock.items_eq⟩
      · rw [IdStream.drawMany_zero, List.append_nil]
        exact ⟨named.count, named.each, named.hand, named.unanswered, named.free⟩
  obtain ⟨a₀, works₀⟩ := exists_worksFor p
  obtain ⟨n, left, stock, named₀⟩ := each a₀ works₀
  refine ⟨coherent.step step, n, left, stock, ?_⟩
  intro a works
  obtain ⟨n', -, -, named⟩ := each a works
  -- as many ids are drawn as logs are taken, whatever the pipeline works for
  have count := named.count.trans named₀.count.symm
  rw [List.length_append, List.length_append, IdStream.length_drawMany,
    IdStream.length_drawMany] at count
  obtain rfl : n' = n := Nat.add_left_cancel count
  exact named

/-- **A turn of one pipeline** leaves the ids of the others alone. -/
theorem Sound.move (hs : Sound ids C drawn h s) {k : κ} {m : Pipeline.Move ι}
    {seen : List (Episode ι)} (proper : m.Proper (h k))
    (made : s.step? g k m = some (seen, s')) :
    ∃ new, Sound ids C (drawn ++ new) (Function.update h k (h k ++ seen)) s' := by
  obtain ⟨⟨seen', p⟩, hstep, heq⟩ := Option.map_eq_some_iff.mp made
  obtain ⟨rfl, rfl⟩ := Prod.mk.inj heq
  obtain ⟨coherent, n, left, stock, named⟩ := hs.turn (step_of_step? proper hstep)
  have hlength : ((s.ids.drawMany n).map (k, ·)).length = n := by
    rw [List.length_map, IdStream.length_drawMany]
  refine ⟨(s.ids.drawMany n).map (k, ·), ?_, ?_, ?_, ?_, ?_⟩
  · rw [List.map_append, List.map_map, List.length_append, hlength,
      IdStream.drawMany_add, ← hs.left, hs.drawn_eq]
    congr 1
    exact List.map_id _
  · show p.dispatcher.ids = _
    rw [left, List.length_append, hlength, ← IdStream.drop_drop, ← hs.left]
  -- it is about this pipeline or about another one, which has not moved
  · intro k'
    by_cases same : k' = k
    · subst same
      simpa [after] using coherent
    · simpa [after, same] using hs.coherent k'
  · intro k'
    by_cases same : k' = k
    · subst same
      simpa [after] using stock
    · simpa [after, same] using hs.stock k'
  · intro k' a works
    by_cases same : k' = k
    · subst same
      have hworks : p.WorksFor a := by simpa [after] using works
      rw [namesOf_append, namesOf_own]
      simpa [after] using named a hworks
    · have hworks : (s.pipelines k').WorksFor a := by simpa [after, same] using works
      rw [namesOf_append, namesOf_other same, List.append_nil]
      simpa [after, same] using hs.named k' a hworks

/-- No pipeline has done anything. -/
def Fresh (s : Process κ β) : Prop :=
  ∀ k, ∃ settings broker ids around,
    Pipeline.new? settings broker ids around = some (s.pipelines k)

theorem Sound.begin (fresh : s.Fresh) :
    ∃ C, Sound (ι := ι) s.ids C [] (fun _ => []) s := by
  have each (k : κ) : ∃ c, Dispatcher.Stock c [] (s.pipelines k).dispatcher ∧
      ∀ a, Dispatcher.Named a [] [] (s.pipelines k).dispatcher := by
    obtain ⟨settings, broker, ids, around, new⟩ := fresh k
    obtain ⟨q, hq, heq⟩ := Option.map_eq_some_iff.mp new
    rw [← heq]
    exact ⟨_, .begin hq, fun _ => .begin⟩
  choose C stock named using each
  refine ⟨C, rfl, s.ids.drop_zero.symm, ?_, stock, fun k a _ => named k a⟩
  intro k
  obtain ⟨settings, broker, ids, around, new⟩ := fresh k
  exact .begin new

/-- **The ids of a run** of the process. -/
theorem Run.sound (fresh : s₀.Fresh) (run : Run g s₀ h s) :
    ∃ C drawn, Sound s₀.ids C drawn h s := by
  induction run with
  | begin =>
    obtain ⟨C, sound⟩ := Sound.begin (ι := ι) fresh
    exact ⟨C, [], sound⟩
  | move run proper made ih =>
    obtain ⟨C, drawn, sound⟩ := ih
    obtain ⟨new, sound'⟩ := sound.move proper made
    exact ⟨C, drawn ++ new, sound'⟩

/-! ### No two logs have one id -/

/-- The id of a call was drawn by its pipeline, for the place of its log. -/
theorem Sound.drew (hs : Sound ids C drawn h s) {k : κ} {j : Nat} {c : Call}
    (hc : (calls (inner (h k)))[j]? = some c) :
    (namesOf drawn k)[placeOf (calls (inner (h k))) j]? = some c.message.id := by
  obtain ⟨a, works⟩ := exists_worksFor (s.pipelines k)
  obtain ⟨l, name, -, hname, hm⟩ := (hs.named k a works).each j c hc
  rw [hname, hm]
  rfl

/-- **Calls with one id** are made by one pipeline, for one log. -/
theorem Sound.unique (hs : Sound ids C drawn h s) (distinct : (ids.drawMany drawn.length).Nodup)
    {k k' : κ} {j j' : Nat} {c c' : Call} (hc : (calls (inner (h k)))[j]? = some c)
    (hc' : (calls (inner (h k')))[j']? = some c') (same : c.message.id = c'.message.id) :
    k = k' ∧ placeOf (calls (inner (h k))) j = placeOf (calls (inner (h k'))) j' := by
  rw [← hs.drawn_eq] at distinct
  have drew := hs.drew hc
  have drew' := hs.drew hc'
  rw [← same] at drew'
  -- an id is noted once, and so by one pipeline
  have entry : (k, c.message.id) ∈ drawn := mem_of_mem_namesOf (List.mem_of_getElem? drew)
  have entry' : (k', c.message.id) ∈ drawn := mem_of_mem_namesOf (List.mem_of_getElem? drew')
  have entries := List.inj_on_of_nodup_map distinct entry entry' rfl
  obtain rfl : k = k' := congrArg Prod.fst entries
  refine ⟨rfl, ?_⟩
  -- and it stands at one place among the ids of this pipeline
  have nodup : (namesOf drawn k).Nodup := distinct.sublist (List.filter_sublist.map _)
  have hlt := (List.getElem?_eq_some_iff.mp drew).1
  exact (List.getElem?_inj hlt nodup).mp (drew.trans drew'.symm)

/-- **One id for each log**, in whichever pipelines of the process the logs are; `drawn` are all ids
that were drawn, in their order, with the pipelines that have drawn them. -/
structure Apart (ids : IdStream) (drawn : List (κ × String)) (h : κ → List (Episode ι))
    (s : Process κ β) : Prop where
  drawn_eq : drawn.map (·.2) = ids.drawMany drawn.length
  left : s.ids = ids.drop drawn.length
  /-- Each pipeline draws one id for each log that its dispatcher takes, and no other. -/
  count : ∀ k, (namesOf drawn k).length = (s.pipelines k).dispatcher.taken
  /-- If they ascend, its messages bear them in the order of acceptance. -/
  numbered : ids.Ascends drawn.length → ∀ k a, (s.pipelines k).WorksFor a →
    Dispatcher.Numbered a (namesOf drawn k) (inner (h k)) (s.pipelines k).dispatcher
  /-- Calls with one id are made by one pipeline, for one log. -/
  unique : ids.Ascends drawn.length → ∀ k k' j j' c c', (calls (inner (h k)))[j]? = some c →
    (calls (inner (h k')))[j']? = some c' → c.message.id = c'.message.id →
    k = k' ∧ placeOf (calls (inner (h k))) j = placeOf (calls (inner (h k'))) j'

/-- **One id for each log.** From whatever source ids are drawn, every dispatcher draws one for each
log that it takes, and if the ids that are drawn ascend, the messages bear them in the order of
acceptance. So it is with every pipeline of a process in which all draw from one source, and no two
logs of them have one id. -/
theorem one_id_each (ids : IdStream) :
    (∀ (a : Assignment β) (C : Nat) (broker : β) (q : Queue Log) (h : List Sight)
        (d : Dispatcher β), Queue.new? C = some q → Dispatcher.Run a (.new broker q ids) h d →
        d.ids = ids.drop d.taken ∧
          (ids.Ascends d.taken → Dispatcher.Numbered a (ids.drawMany d.taken) h d)) ∧
    ∀ (g : Supply ι β) (s₀ s : Process κ β) (h : κ → List (Episode ι)), s₀.ids = ids → s₀.Fresh →
      Run g s₀ h s → ∃ drawn, Apart ids drawn h s := by
  constructor
  · intro a C broker q h d capacity run
    obtain ⟨stock, left, named⟩ := run.named capacity
    exact ⟨left, fun ascends => named.numbered stock ascends⟩
  · intro g s₀ s h source fresh run
    obtain ⟨C, drawn, sound⟩ := run.sound fresh
    rw [source] at sound
    have all (ascends : ids.Ascends drawn.length) : (drawn.map (·.2)).Pairwise (· < ·) := by
      rw [sound.drawn_eq]
      exact ascends
    refine ⟨drawn, sound.drawn_eq, sound.left, ?_, ?_, ?_⟩
    · intro k
      obtain ⟨a, works⟩ := exists_worksFor (s.pipelines k)
      exact (sound.named k a works).count
    · intro ascends k a works
      refine (sound.named k a works).numbered (sound.stock k) ?_
      exact (all ascends).sublist (List.filter_sublist.map _)
    · intro ascends k k' j j' c c' hc hc' same
      refine sound.unique ?_ hc hc' same
      rw [← sound.drawn_eq]
      exact (all ascends).imp fun lt => String.ne_of_lt lt

/-! ### A rehearsal -/

namespace Rehearsal

/-- Two pipelines that were not started. -/
def process : Process Bool Scripted.Broker where
  ids := .counted
  broker := .new [] []
  pipelines _ := Pipeline.Rehearsal.pipeline

/-- Both pipelines get a log and send it, in turns. -/
def moves : List (Bool × Pipeline.Move Bool) :=
  [(true, .submit 0 true default), (false, .submit 0 true default),
    (true, .initWith true .default), (false, .initWith true .default),
    (true, .inside .proceed), (false, .inside .proceed), (true, .inside .proceed),
    (false, .inside .proceed), (false, .inside .proceed), (true, .inside .proceed),
    (false, .inside .proceed), (true, .inside .proceed)]

/-- What is seen of it, and what comes of it. -/
def outcome : (Bool → List (Episode Bool)) × Process Bool Scripted.Broker :=
  play Pipeline.Rehearsal.supply process moves

theorem fresh : process.Fresh := fun _ => ⟨_, _, _, _, Pipeline.Rehearsal.new⟩

end Rehearsal

/-- Of two pipelines, every id was drawn by one or the other. -/
theorem length_namesOf (drawn : List (Bool × String)) :
    (namesOf drawn true).length + (namesOf drawn false).length = drawn.length := by
  induction drawn with
  | nil => rfl
  | cons e rest ih =>
    obtain ⟨k, name⟩ := e
    rw [← List.singleton_append, namesOf_append, namesOf_append, List.length_append,
      List.length_append, List.length_append, ← ih]
    cases k with
    | true =>
      have own : (namesOf [(true, name)] true).length = 1 := rfl
      have other : (namesOf [(true, name)] false).length = 0 := rfl
      rw [own, other, List.length_singleton]
      omega
    | false =>
      have own : (namesOf [(false, name)] false).length = 1 := rfl
      have other : (namesOf [(false, name)] true).length = 0 := rfl
      rw [own, other, List.length_singleton]
      omega

theorem rehearsal_one_id_each :
    IdStream.counted.Ascends 2 ∧
      Dispatcher.Numbered Dispatcher.Rehearsal.assignment (IdStream.counted.drawMany 2)
        Dispatcher.Rehearsal.outcome.1 Dispatcher.Rehearsal.outcome.2 ∧
      ∃ drawn, drawn.length = 2 ∧ Apart .counted drawn Rehearsal.outcome.1 Rehearsal.outcome.2 ∧
        ∀ k a, (Rehearsal.outcome.2.pipelines k).WorksFor a →
          Dispatcher.Numbered a (namesOf drawn k) (inner (Rehearsal.outcome.1 k))
            (Rehearsal.outcome.2.pipelines k).dispatcher := by
  have ascends : IdStream.counted.Ascends 2 := by
    rw [IdStream.Ascends, IdStream.drawMany]
    decide
  obtain ⟨one, several⟩ :=
    one_id_each (κ := Bool) (ι := Bool) (β := Scripted.Broker) IdStream.counted
  obtain ⟨drawn, apart⟩ := several Pipeline.Rehearsal.supply Rehearsal.process _ _ rfl
    Rehearsal.fresh (run_play _ _ Rehearsal.moves)
  -- each of the two pipelines has taken a log
  have length : drawn.length = 2 := by
    rw [← length_namesOf, apart.count, apart.count]
    rfl
  refine ⟨ascends, ?_, drawn, length, apart, apart.numbered (length ▸ ascends)⟩
  exact (one _ _ _ _ _ _ Dispatcher.Rehearsal.capacity Dispatcher.Rehearsal.run).2 ascends

end Process

end AuditRelay
