import AuditRelay.Proofs.Drain
import Mathlib.Data.Nat.Find

/-!
# The timetable of attempts

A request to a broker is repeated until it succeeds, with a pause after each failure. From the
replies and the pauses one can read off when each attempt begins and ends (`Series.begins`,
`Series.ends?`), which attempts there are (`Series.Comes`), and which is the first to succeed
(`Series.Succeeds`). None of this depends on what is asked for.

* `Clockwork.Leads` is how a clock is followed: from one state to another in a bounded number of
  steps, whatever follows.
* `Series.exists_last` is the last attempt that begins before a signal, if there are not too many.
* `Series.CarriedOut` is what is asked of a clock that carries out the attempts, and what its states
  have to show. An attempt that fails leads from one attempt to the next (`CarriedOut.fail`), and so
  the clock leads to every attempt that comes before the signal (`CarriedOut.exists_asked`).
* `Series.Observed` is the part of it that is left once the signal has come: a reply that is on its
  way is waited for.
-/

namespace AuditRelay

/-! ### Clocks that lead somewhere -/

namespace Clockwork

variable {σ : Type} {c : Clockwork σ} {limit : Option Nat} {n k : Nat} {s s' s'' : σ}

/-- **A clock leads from one state to another** in at most `n` steps, and goes on from there. -/
def Leads (c : Clockwork σ) (limit : Option Nat) (n : Nat) (s s' : σ) : Prop :=
  ∃ used ≤ n, ∀ fuel, c.runUntil limit (used + fuel) s = c.runUntil limit fuel s'

theorem Leads.refl (n : Nat) (s : σ) : c.Leads limit n s s :=
  ⟨0, Nat.zero_le n, fun fuel => by rw [Nat.zero_add]⟩

theorem Leads.trans (first : c.Leads limit n s s') (second : c.Leads limit k s' s'') :
    c.Leads limit (n + k) s s'' := by
  obtain ⟨used, le, first⟩ := first
  obtain ⟨used', le', second⟩ := second
  refine ⟨used + used', Nat.add_le_add le le', fun fuel => ?_⟩
  calc c.runUntil limit (used + used' + fuel) s
    _ = c.runUntil limit (used + (used' + fuel)) s := by rw [Nat.add_assoc]
    _ = c.runUntil limit (used' + fuel) s' := first _
    _ = c.runUntil limit fuel s'' := second _

theorem Leads.act (act : c.act? s = some s') : c.Leads limit 1 s s' := by
  refine ⟨1, Nat.le_refl 1, fun fuel => ?_⟩
  simp only [Nat.add_comm 1, runUntil, act]

theorem Leads.wait {t : Nat} (idle : c.act? s = none) (due : c.due? s = some t)
    (within : ∀ l, limit = some l → t ≤ l) : c.Leads limit 1 s (c.wait t s) := by
  refine ⟨1, Nat.le_refl 1, fun fuel => ?_⟩
  simp only [Nat.add_comm 1, runUntil, idle, due]
  cases limit with
  | none => rfl
  | some l => exact if_pos (within l rfl)

theorem runUntil_stops {l fuel : Nat} (idle : c.act? s = none)
    (due : ∀ t, c.due? s = some t → l < t) : c.runUntil (some l) (fuel + 1) s = c.wait l s := by
  simp only [runUntil, idle]
  cases hdue : c.due? s with
  | none => rfl
  | some t => exact if_neg (Nat.not_le.mpr (due t hdue))

/-- A clock with nothing to do and nothing to wait for stays where it is. -/
theorem runUntil_rests (idle : c.act? s = none) (never : c.due? s = none)
    (rests : ∀ l, limit = some l → c.wait l s = s) (fuel : Nat) : c.runUntil limit fuel s = s := by
  cases fuel with
  | zero => rfl
  | succ fuel =>
    simp only [runUntil, idle, never]
    cases limit with
    | none => rfl
    | some l => exact rests l rfl

theorem Leads.runUntil_eq {r : σ} {fuel : Nat} (leads : c.Leads limit n s s')
    (ends : ∀ rest, k ≤ rest → c.runUntil limit rest s' = r) (enough : n + k ≤ fuel) :
    c.runUntil limit fuel s = r := by
  obtain ⟨used, le, leads⟩ := leads
  -- the steps that are left are enough for the rest
  have split : fuel = used + (fuel - used) := by omega
  rw [split, leads]
  exact ends _ (by omega)

end Clockwork

theorem Reply.isSome_of_hasArrived {α : Type} {r : Reply α} {since now : Nat}
    (arrived : r.hasArrived since now = true) : r.delay.isSome = true := by
  unfold hasArrived at arrived
  split at arrived
  · next d delay => rw [delay]; rfl
  · exact absurd arrived Bool.noConfusion

/-! ### The signal -/

/-- A moment before the signal, if there is one; both are counted from the first attempt. -/
def Before (t : Nat) (signal : Option Nat) : Prop := ∀ c, signal = some c → t < c

theorem before_some {t c : Nat} (lt : t < c) : Before t (some c) :=
  fun _ hc => Option.some.inj hc ▸ lt

theorem before_none (t : Nat) : Before t none := fun _ hc => absurd hc (by simp)

theorem Before.mono {t t' : Nat} {signal : Option Nat} (before : Before t signal) (le : t' ≤ t) :
    Before t' signal :=
  fun c hc => Nat.lt_of_le_of_lt le (before c hc)

/-! ### When attempts begin and end -/

/-- **Attempts at one thing**, one after the other. -/
structure Series (α : Type) where
  /-- When the first attempt begins. -/
  origin : Nat
  /-- Milliseconds between two attempts. -/
  interval : Nat
  /-- The reply to attempt `n`; attempts are counted from zero. -/
  reply : Nat → Reply α

namespace Series

variable {α : Type} (S : Series α)

/-- How long an attempt that fails and the pause behind it take. -/
def round (n : Nat) : Nat := (S.reply n).delay.getD 0 + Pause.length S.interval

/-- When attempt `n` begins, if it comes to it: after the attempts and the pauses before it. -/
def begins : Nat → Nat
  | 0 => 0
  | n + 1 => begins n + S.round n

/-- When attempt `n` ends, if it ever does. -/
def ends? (n : Nat) : Option Nat := (S.reply n).delay.map (S.begins n + ·)

/-- Attempt `n` is answered with a failure. -/
def Fails (n : Nat) : Prop :=
  (S.reply n).delay.isSome = true ∧ ∃ e, (S.reply n).answer = .error e

/-- It comes to attempt `n`, if nothing else ends the call: all attempts before it fail. -/
def Comes (n : Nat) : Prop := ∀ j < n, S.Fails j

/-- **The first success** is attempt `k`; it ends at `t` with that result. -/
def Succeeds (k t : Nat) (result : α) : Prop :=
  S.Comes k ∧ S.ends? k = some t ∧ (S.reply k).answer = .ok result

/-- The attempts that begin before the signal are the first `n`. -/
def Begun (signal : Option Nat) (n : Nat) : Prop :=
  ∀ j, j < n ↔ S.Comes j ∧ Before (S.begins j) signal

/-- The attempts that have failed before `c` are the first `n`. -/
def Lost (c n : Nat) : Prop :=
  ∀ j, j < n ↔ S.Comes j ∧ S.Fails j ∧ ∃ t, S.ends? j = some t ∧ t < c

/-- The moment of the signal is none at which an attempt begins or ends. -/
def Clear (signal : Option Nat) : Prop :=
  ∀ c, signal = some c → ∀ n, S.Comes n → S.begins n ≠ c ∧ S.ends? n ≠ some c

/-- At most `f` attempts before the signal fail. -/
def Bounded (signal : Option Nat) (f : Nat) : Prop :=
  ∀ n, S.Comes n → Before (S.begins n) signal → n ≤ f

/-- When the first `n` attempts begin, each beside what is noted of it; the newest first. -/
def noted {ξ : Type} (x : ξ) (n : Nat) : List (Nat × ξ) :=
  ((List.range n).map fun j => (S.origin + S.begins j, x)).reverse

/-- Attempt `n` on its way. -/
abbrev underway (n : Nat) : Trial α := .asked (n + 1) (S.origin + S.begins n) (S.reply n)

/-- The pause behind attempt `n`. -/
abbrev resting (n : Nat) : Trial α := .paused (n + 1) (S.origin + S.begins (n + 1))

/-- The moment of the signal on the clock. -/
abbrev limit (signal : Option Nat) : Option Nat := signal.map (S.origin + ·)

variable {S} {n k t : Nat}

theorem begins_succ (n : Nat) : S.begins (n + 1) = S.begins n + S.round n := rfl

theorem begins_mono {n k : Nat} (le : n ≤ k) : S.begins n ≤ S.begins k := by
  induction le with
  | refl => exact Nat.le_refl _
  | step _ ih => exact Nat.le_trans ih (Nat.le_add_right _ _)

theorem noted_succ {ξ : Type} (x : ξ) (n : Nat) :
    S.noted x (n + 1) = (S.origin + S.begins n, x) :: S.noted x n := by
  rw [noted, noted, List.range_succ, List.map_append, List.reverse_append]
  rfl

theorem Comes.zero : S.Comes 0 := fun j lt => absurd lt (Nat.not_lt_zero j)

theorem Comes.succ (comes : S.Comes n) (fails : S.Fails n) : S.Comes (n + 1) := by
  intro j lt
  rcases Nat.lt_succ_iff_lt_or_eq.mp lt with before | rfl
  · exact comes j before
  · exact fails

theorem Comes.mono (comes : S.Comes k) (le : n ≤ k) : S.Comes n :=
  fun j lt => comes j (Nat.lt_of_lt_of_le lt le)

theorem isSome_of_ends (ends : S.ends? n = some t) : (S.reply n).delay.isSome = true := by
  obtain ⟨d, delay, -⟩ := Option.map_eq_some_iff.mp ends
  rw [delay]
  rfl

theorem exists_ends (answered : (S.reply n).delay.isSome = true) : ∃ t, S.ends? n = some t := by
  obtain ⟨d, delay⟩ := Option.isSome_iff_exists.mp answered
  exact ⟨S.begins n + d, by rw [ends?, delay]; rfl⟩

/-- The next attempt begins after the pause. -/
theorem begins_succ_of_ends (ends : S.ends? n = some t) :
    S.begins (n + 1) = t + Pause.length S.interval := by
  obtain ⟨d, delay, rfl⟩ := Option.map_eq_some_iff.mp ends
  rw [begins_succ, round, delay, Option.getD_some, Nat.add_assoc]

theorem begins_le_of_ends (ends : S.ends? n = some t) : S.begins n ≤ t := by
  obtain ⟨d, -, rfl⟩ := Option.map_eq_some_iff.mp ends
  exact Nat.le_add_right _ _

/-- An attempt that ends has failed or is the first to succeed. -/
theorem Comes.fails_or_succeeds (comes : S.Comes n) (ends : S.ends? n = some t) :
    S.Fails n ∨ ∃ result, S.Succeeds n t result := by
  cases answer : (S.reply n).answer with
  | ok result => exact Or.inr ⟨result, comes, ends, answer⟩
  | error e => exact Or.inl ⟨isSome_of_ends ends, e, answer⟩

theorem Succeeds.not_fails {result : α} (succeeds : S.Succeeds k t result) : ¬ S.Fails k := by
  rintro ⟨-, e, failure⟩
  exact absurd (succeeds.2.2.symm.trans failure) (by simp)

/-- **There is only one first success.** -/
theorem Succeeds.unique {k' t' : Nat} {result result' : α} (succeeds : S.Succeeds k t result)
    (succeeds' : S.Succeeds k' t' result') : k = k' ∧ t = t' ∧ result = result' := by
  have same : k = k' := by
    rcases Nat.lt_trichotomy k k' with lt | eq | gt
    · exact absurd (succeeds'.1 k lt) succeeds.not_fails
    · exact eq
    · exact absurd (succeeds.1 k' gt) succeeds'.not_fails
  subst same
  exact ⟨rfl, Option.some.inj (succeeds.2.1.symm.trans succeeds'.2.1),
    Except.ok.inj (succeeds.2.2.symm.trans succeeds'.2.2)⟩

/-- **The last attempt** before the signal. -/
theorem exists_last {signal : Option Nat} {f : Nat} (clear : S.Clear signal)
    (bounded : S.Bounded signal f) :
    ∃ n ≤ f, S.Comes n ∧ Before (S.begins n) signal ∧ S.Begun signal (n + 1) := by
  classical
  have first : S.Comes 0 ∧ Before (S.begins 0) signal :=
    ⟨.zero, fun c hc => Nat.pos_of_ne_zero (clear c hc 0 .zero).1.symm⟩
  -- the greatest of those that begin before the signal
  have last := Nat.findGreatest_spec (P := fun n => S.Comes n ∧ Before (S.begins n) signal)
    f.zero_le first
  refine ⟨_, Nat.findGreatest_le f, last.1, last.2, fun j => ⟨fun lt => ?_, fun begun => ?_⟩⟩
  · have le := Nat.le_of_lt_succ lt
    exact ⟨last.1.mono le, last.2.mono (begins_mono le)⟩
  · have bound : j ≤ f := bounded j begun.1 begun.2
    exact Nat.lt_succ_of_le (Nat.le_findGreatest bound begun)

/-- If the last attempt before the signal fails, the signal comes before the next one. -/
theorem Begun.lt_begins {c : Nat} (begun : S.Begun (some c) (n + 1)) (clear : S.Clear (some c))
    (fails : S.Fails n) : c < S.begins (n + 1) := by
  have comes : S.Comes (n + 1) := ((begun n).mp n.lt_succ_self).1.succ fails
  have other : S.begins (n + 1) ≠ c := (clear c rfl (n + 1) comes).1
  have behind : ¬ S.begins (n + 1) < c := fun early =>
    absurd ((begun (n + 1)).mpr ⟨comes, before_some early⟩) (Nat.lt_irrefl _)
  omega

/-- The attempts before one that begins before `c` have failed before `c`. -/
theorem Comes.lost {c : Nat} (comes : S.Comes n) (begun : S.begins n < c) {j : Nat} (lt : j < n) :
    S.Comes j ∧ S.Fails j ∧ ∃ t, S.ends? j = some t ∧ t < c := by
  have fails : S.Fails j := comes j lt
  obtain ⟨t, ends⟩ := exists_ends fails.1
  have pause : t ≤ S.begins (j + 1) := begins_succ_of_ends ends ▸ Nat.le_add_right _ _
  have le : S.begins (j + 1) ≤ S.begins n := begins_mono lt
  exact ⟨comes.mono (Nat.le_of_lt lt), fails, t, ends, by omega⟩

/-- What ends before `c` has begun before it. -/
theorem Begun.lt_of_ends {c j : Nat} (begun : S.Begun (some c) n) (comes : S.Comes j)
    (ends : S.ends? j = some t) (lt : t < c) : j < n :=
  (begun j).mpr ⟨comes, before_some (Nat.lt_of_le_of_lt (begins_le_of_ends ends) lt)⟩

/-- If the last attempt has not ended, all others have failed. -/
theorem Begun.lost_of_late {c : Nat} (begun : S.Begun (some c) (n + 1))
    (late : ∀ t, S.ends? n = some t → c < t) : S.Lost c n := by
  obtain ⟨comes, before⟩ := (begun n).mp n.lt_succ_self
  refine fun j => ⟨comes.lost (before c rfl), fun ⟨comes', _, t, ends, lt⟩ => ?_⟩
  have le : j ≤ n := Nat.le_of_lt_succ (begun.lt_of_ends comes' ends lt)
  refine Nat.lt_of_le_of_ne le fun same => ?_
  exact absurd (late t (same ▸ ends)) (Nat.not_lt.mpr (Nat.le_of_lt lt))

/-- If the last attempt has failed, every attempt has. -/
theorem Begun.lost_of_fails {c : Nat} (begun : S.Begun (some c) (n + 1)) (fails : S.Fails n)
    (ends : S.ends? n = some t) (lt : t < c) : S.Lost c (n + 1) := by
  obtain ⟨comes, before⟩ := (begun n).mp n.lt_succ_self
  refine fun j => ⟨fun hj => ?_, fun ⟨comes', _, t', ends', lt'⟩ => ?_⟩
  · rcases Nat.lt_succ_iff_lt_or_eq.mp hj with earlier | rfl
    · exact comes.lost (before c rfl) earlier
    · exact ⟨comes, fails, t, ends, lt⟩
  · exact begun.lt_of_ends comes' ends' lt'

/-- An attempt that does not fail is the last one. -/
theorem bounded_of_not_fails (stands : ¬S.Fails k) (signal : Option Nat) : S.Bounded signal k :=
  fun _ comes _ => Nat.le_of_not_lt fun lt => stands (comes k lt)

/-- If there are pauses, only so many attempts begin before the signal. -/
theorem bounded_of_pauses (pauses : 0 < S.interval) (c : Nat) : S.Bounded (some c) c := by
  -- each round takes some time, so there are no more rounds than milliseconds
  have round (n : Nat) : 0 < S.round n := by
    have pause : 0 < Pause.length S.interval := Nat.lt_min.mpr ⟨pauses, by decide⟩
    exact Nat.lt_of_lt_of_le pause (Nat.le_add_left _ _)
  have grows (n : Nat) : n ≤ S.begins n := by
    induction n with
    | zero => exact Nat.zero_le _
    | succ n ih =>
      have := round n
      rw [begins_succ]
      omega
  exact fun n _ before => Nat.le_of_lt (Nat.lt_of_le_of_lt (grows n) (before c rfl))

/-! ### Attempts on a clock -/

theorem arrived (ends : S.ends? n = some t) :
    (S.reply n).hasArrived (S.origin + S.begins n) (S.origin + t) = true := by
  obtain ⟨d, delay, rfl⟩ := Option.map_eq_some_iff.mp ends
  rw [Reply.hasArrived, delay]
  simp only [decide_eq_true_eq]
  omega

theorem blocked_underway {time : Nat} (early : ∀ t, S.ends? n = some t → time < t) :
    (S.underway n).Blocked (S.origin + time) := by
  change (S.reply n).hasArrived (S.origin + S.begins n) (S.origin + time) = false
  unfold Reply.hasArrived
  split
  · next d delay =>
    have := early (S.begins n + d) (by rw [ends?, delay]; rfl)
    simp only [decide_eq_false_iff_not, Nat.not_le]
    omega
  · rfl

theorem due?_underway (n : Nat) : (S.underway n).due? = (S.ends? n).map (S.origin + ·) := by
  change (S.reply n).delay.map (S.origin + S.begins n + ·) = _
  rw [ends?, Option.map_map]
  exact congrArg (Option.map · _) (funext fun d => Nat.add_assoc ..)

variable {σ : Type} {c : Clockwork σ} {Q : Trial α → Nat → σ → Prop}

/-- **Attempts that are observed on a clock**: `Q trial time s` says that the state `s` shows the
trial, so many milliseconds after the first attempt. -/
structure Observed (S : Series α) (c : Clockwork σ) (Q : Trial α → Nat → σ → Prop) : Prop where
  due : ∀ {trial time s}, Q trial time s → c.due? s = trial.due?
  /-- Nothing but the time changes while time passes. -/
  wait : ∀ {trial time t s}, trial.isOver = false → Q trial time s → time ≤ t →
    Q trial t (c.wait (S.origin + t) s)
  /-- A reply that is on its way is waited for. -/
  await : ∀ {n time s}, Q (S.underway n) time s → (S.underway n).Blocked (S.origin + time) →
    c.act? s = none

/-- **Attempts that are carried out**, as long as there is no signal. -/
structure CarriedOut (S : Series α) (c : Clockwork σ) (Q : Trial α → Nat → σ → Prop) : Prop
    extends Observed S c Q where
  ask : ∀ {n s}, Q (.ready n) (S.begins n) s →
    ∃ s', c.act? s = some s' ∧ Q (S.underway n) (S.begins n) s'
  refuse : ∀ {n t e s}, Q (S.underway n) t s → S.ends? n = some t → (S.reply n).answer = .error e →
    ∃ s', c.act? s = some s' ∧ Q (S.resting n) t s'
  /-- A pause is waited for. -/
  rest : ∀ {n time s}, Q (S.resting n) time s → time < S.begins (n + 1) → c.act? s = none
  wake : ∀ {n s}, Q (S.resting n) (S.begins (n + 1)) s →
    ∃ s', c.act? s = some s' ∧ Q (.ready (n + 1)) (S.begins (n + 1)) s'

variable {trial : Trial α} {signal : Option Nat} {time : Nat} {s s₀ : σ}

/-- **Time passes** until what is waited for. -/
theorem Observed.pass (o : S.Observed c Q) (goesOn : trial.isOver = false)
    (due : trial.due? = some (S.origin + t)) (shows : Q trial time s)
    (idle : time < t → c.act? s = none) (le : time ≤ t) (before : Before t signal) :
    ∃ s', Q trial t s' ∧ c.Leads (S.limit signal) 1 s s' := by
  rcases Nat.eq_or_lt_of_le le with rfl | lt
  · exact ⟨s, shows, .refl 1 s⟩
  · refine ⟨_, o.wait goesOn shows le, .wait (idle lt) ((o.due shows).trans due) ?_⟩
    intro l hl
    obtain ⟨m, hm, rfl⟩ := Option.map_eq_some_iff.mp hl
    exact Nat.add_le_add_left (Nat.le_of_lt (before m hm)) _

/-- **The signal comes first.** -/
theorem Observed.stop (o : S.Observed c Q) {l : Nat} (goesOn : trial.isOver = false)
    (shows : Q trial time s) (idle : c.act? s = none) (le : time ≤ l)
    (late : ∀ moment, trial.due? = some moment → S.origin + l < moment) :
    ∃ s', Q trial l s' ∧ ∀ fuel, 1 ≤ fuel → c.runUntil (some (S.origin + l)) fuel s = s' := by
  refine ⟨_, o.wait goesOn shows le, fun fuel pos => ?_⟩
  obtain ⟨fuel, rfl⟩ := Nat.exists_eq_add_of_le' pos
  exact Clockwork.runUntil_stops idle fun moment hm => late moment ((o.due shows).symm.trans hm)

/-- The reply to an attempt arrives. -/
theorem Observed.answered (o : S.Observed c Q) (shows : Q (S.underway n) time s)
    (ends : S.ends? n = some t) (le : time ≤ t) (before : Before t signal) :
    ∃ s', Q (S.underway n) t s' ∧ c.Leads (S.limit signal) 1 s s' := by
  have due : (S.underway n).due? = some (S.origin + t) := by
    rw [due?_underway, ends]
    rfl
  refine o.pass rfl due shows (fun lt => o.await shows (blocked_underway ?_)) le before
  intro t' ends'
  exact Option.some.inj (ends.symm.trans ends') ▸ lt

/-- The signal finds an attempt on its way. -/
theorem Observed.stop_underway (o : S.Observed c Q) {l : Nat} (shows : Q (S.underway n) time s)
    (le : time ≤ l) (late : ∀ t, S.ends? n = some t → l < t) :
    ∃ s', Q (S.underway n) l s' ∧
      ∀ fuel, 1 ≤ fuel → c.runUntil (some (S.origin + l)) fuel s = s' := by
  have idle : c.act? s = none :=
    o.await shows (blocked_underway fun t ht => Nat.lt_of_le_of_lt le (late t ht))
  refine o.stop rfl shows idle le fun moment hm => ?_
  obtain ⟨t, ends, rfl⟩ := Option.map_eq_some_iff.mp ((due?_underway n).symm.trans hm)
  exact Nat.add_lt_add_left (late t ends) _

/-- An attempt that is never answered is waited for without end. -/
theorem Observed.stay (o : S.Observed c Q) (shows : Q (S.underway n) time s)
    (silent : S.ends? n = none) (fuel : Nat) : c.runUntil none fuel s = s := by
  have idle : c.act? s = none :=
    o.await shows (blocked_underway fun t ht => absurd (silent.symm.trans ht) (by simp))
  have never : c.due? s = none := by
    rw [o.due shows, due?_underway, silent]
    rfl
  exact Clockwork.runUntil_rests idle never (fun l hl => absurd hl (by simp)) fuel

/-- The signal finds a pause. -/
theorem CarriedOut.stop_resting (o : S.CarriedOut c Q) {l : Nat} (shows : Q (S.resting n) time s)
    (le : time ≤ l) (late : l < S.begins (n + 1)) :
    ∃ s', Q (S.resting n) l s' ∧
      ∀ fuel, 1 ≤ fuel → c.runUntil (some (S.origin + l)) fuel s = s' := by
  refine o.stop rfl shows (o.rest shows (Nat.lt_of_le_of_lt le late)) le fun moment hm => ?_
  obtain rfl := Option.some.inj hm
  exact Nat.add_lt_add_left late _

/-- **An attempt that fails leads to the next one**, if that begins before the signal. -/
theorem CarriedOut.fail (o : S.CarriedOut c Q) (shows : Q (.ready n) (S.begins n) s)
    (fails : S.Fails n) (before : Before (S.begins (n + 1)) signal) :
    ∃ s', Q (.ready (n + 1)) (S.begins (n + 1)) s' ∧ c.Leads (S.limit signal) 5 s s' := by
  obtain ⟨answered, e, failure⟩ := fails
  obtain ⟨t, ends⟩ := exists_ends answered
  have le : S.begins n ≤ t := begins_le_of_ends ends
  have pause : t ≤ S.begins (n + 1) := begins_succ_of_ends ends ▸ Nat.le_add_right _ _
  -- the request, its reply, the failure, the pause, and the end of the pause
  obtain ⟨s₁, asked, shows₁⟩ := o.ask shows
  obtain ⟨s₂, shows₂, arrived⟩ := o.answered shows₁ ends le (before.mono pause)
  obtain ⟨s₃, refused, shows₃⟩ := o.refuse shows₂ ends failure
  obtain ⟨s₄, shows₄, slept⟩ := o.pass rfl rfl shows₃ (o.rest shows₃) pause before
  obtain ⟨s₅, woken, shows₅⟩ := o.wake shows₄
  exact ⟨s₅, shows₅, Clockwork.Leads.act asked |>.trans <| arrived.trans <|
    Clockwork.Leads.act refused |>.trans <| slept.trans <| .act woken⟩

/-- **The clock leads to every attempt** that comes before the signal. -/
theorem CarriedOut.exists_ready (o : S.CarriedOut c Q) (start : Q (.ready 0) 0 s₀)
    (comes : S.Comes n) (before : Before (S.begins n) signal) :
    ∃ s, Q (.ready n) (S.begins n) s ∧ c.Leads (S.limit signal) (5 * n) s₀ s := by
  -- by induction on the attempts: all those before this one fail, and begin before the signal too
  induction n with
  | zero => exact ⟨_, start, .refl 0 _⟩
  | succ n ih =>
    have le : S.begins n ≤ S.begins (n + 1) := begins_mono n.le_succ
    obtain ⟨s, shows, leads⟩ := ih (comes.mono n.le_succ) (before.mono le)
    obtain ⟨s', shows', leads'⟩ := o.fail shows (comes n n.lt_succ_self) before
    exact ⟨s', shows', leads.trans leads'⟩

theorem CarriedOut.exists_asked (o : S.CarriedOut c Q) (start : Q (.ready 0) 0 s₀)
    (comes : S.Comes n) (before : Before (S.begins n) signal) :
    ∃ s, Q (S.underway n) (S.begins n) s ∧ c.Leads (S.limit signal) (5 * n + 1) s₀ s := by
  obtain ⟨s, shows, reached⟩ := o.exists_ready start comes before
  obtain ⟨s', asked, shows'⟩ := o.ask shows
  exact ⟨s', shows', reached.trans (.act asked)⟩

theorem CarriedOut.exists_answered (o : S.CarriedOut c Q) (start : Q (.ready 0) 0 s₀)
    (comes : S.Comes n) (ends : S.ends? n = some t) (before : Before t signal) :
    ∃ s, Q (S.underway n) t s ∧ c.Leads (S.limit signal) (5 * n + 2) s₀ s := by
  have le := begins_le_of_ends ends
  obtain ⟨s, shows, asked⟩ := o.exists_asked start comes (before.mono le)
  obtain ⟨s', shows', arrived⟩ := o.answered shows ends le before
  exact ⟨s', shows', asked.trans arrived⟩

theorem CarriedOut.exists_rested (o : S.CarriedOut c Q) (start : Q (.ready 0) 0 s₀)
    (comes : S.Comes n) (fails : S.Fails n) (ends : S.ends? n = some t) (before : Before t signal) :
    ∃ s, Q (S.resting n) t s ∧ c.Leads (S.limit signal) (5 * n + 3) s₀ s := by
  obtain ⟨-, e, failure⟩ := fails
  obtain ⟨s, shows, answered⟩ := o.exists_answered start comes ends before
  obtain ⟨s', refused, shows'⟩ := o.refuse shows ends failure
  exact ⟨s', shows', answered.trans (.act refused)⟩

end Series

end AuditRelay
