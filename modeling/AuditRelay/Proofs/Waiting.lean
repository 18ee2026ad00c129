import AuditRelay.Proofs.Handles
import Mathlib.Data.Nat.Basic
import Mathlib.Order.Monotone.Defs

/-!
# Waiting for a broker in memory

Whoever waits for messages looks at the broker time and again, first for the messages and then for the
time. So the last look is not at the timeout but at the first moment of looking that does not lie
before it (`lastLook`), and what arrives until then counts, although the timeout is over.

* `Outcome` says what comes of looking from some moment on, and `waitFrom_outcome` proves it along
  the recursion.
* A `Timeline` is what is asked of a broker while somebody waits, and `Timeline.acknowledged` is what can
  be seen of it. Messages are never taken away, so more is seen later (`Timeline.acknowledged_mono`).
* `wait_decided` is the result: enough messages at the last look are what decides. Where that is the
  timeout itself, and where nothing decisive arrives in between, the timeout is honoured; and
  `met_too_late` shows that otherwise it is not.
-/

namespace AuditRelay.Memory

/-! ### Looking -/

/-- The moment of the last look: the first look that is not before the timeout. -/
def lastLook (timeout : Nat) : Nat := (timeout + (period - 1)) / period * period

theorem le_lastLook (timeout : Nat) : timeout ≤ lastLook timeout := by
  unfold lastLook period
  omega

theorem lastLook_lt (timeout : Nat) : lastLook timeout < timeout + period := by
  unfold lastLook period
  omega

theorem period_dvd_lastLook (timeout : Nat) : period ∣ lastLook timeout := Nat.dvd_mul_left ..

/-- There is no look between the timeout and the last one. -/
theorem lastLook_le {timeout t : Nat} (look : period ∣ t) (late : timeout ≤ t) :
    lastLook timeout ≤ t := by
  obtain ⟨k, rfl⟩ := look
  unfold lastLook period at *
  omega

/-- Before the timeout there is another look. -/
theorem next_le_lastLook {timeout t : Nat} (look : period ∣ t) (early : t < timeout) :
    t + period ≤ lastLook timeout := by
  obtain ⟨k, rfl⟩ := look
  unfold lastLook period at *
  omega

/-- Two looks are apart by the period at least. -/
theorem period_le_of_lt {t t' : Nat} (look : period ∣ t) (look' : period ∣ t') (lt : t < t') :
    t + period ≤ t' := by
  obtain ⟨k, rfl⟩ := look
  obtain ⟨k', rfl⟩ := look'
  unfold period at *
  omega

/-- A timeout that is a multiple of the period is itself a moment of looking. -/
theorem lastLook_of_dvd {timeout : Nat} (multiple : period ∣ timeout) :
    lastLook timeout = timeout :=
  Nat.le_antisymm (lastLook_le multiple (Nat.le_refl _)) (le_lastLook timeout)

section Looks

variable {stored : Nat → Nat} {count timeout elapsed : Nat}

/-- **What comes of looking** from a moment on. -/
structure Outcome (stored : Nat → Nat) (count timeout elapsed : Nat) (r : Bool × Nat) : Prop where
  /-- It ends with a look, and with the last one at the latest. -/
  look : period ∣ r.2
  ends : r.2 ≤ lastLook timeout
  /-- At no look before there was enough. -/
  waited : ∀ t, period ∣ t → elapsed ≤ t → t < r.2 → stored t < count
  found : r.1 = true → count ≤ stored r.2
  gaveUp : r.1 = false → r.2 = lastLook timeout ∧ stored r.2 < count

theorem waitFrom_outcome (look : period ∣ elapsed) (ends : elapsed ≤ lastLook timeout) :
    Outcome stored count timeout elapsed (waitFrom stored count timeout elapsed) := by
  -- by induction on the looks, one case for each way in which a look can end
  induction elapsed using waitFrom.induct stored count timeout with
  | case1 elapsed enough =>
    rw [waitFrom, if_pos enough]
    exact ⟨look, ends, fun t _ from_here before => absurd before (Nat.not_lt.mpr from_here),
      fun _ => enough, fun failed => Bool.noConfusion failed⟩
  | case2 elapsed few late =>
    rw [waitFrom, if_neg few, if_pos late]
    have last : elapsed = lastLook timeout := Nat.le_antisymm ends (lastLook_le look late)
    exact ⟨look, ends, fun t _ from_here before => absurd before (Nat.not_lt.mpr from_here),
      fun met => Bool.noConfusion met, fun _ => ⟨last, Nat.not_le.mp few⟩⟩
  | case3 elapsed few early ih =>
    rw [waitFrom, if_neg few, if_neg early]
    have next := ih (Nat.dvd_add look (Nat.dvd_refl period))
      (next_le_lastLook look (Nat.not_le.mp early))
    refine ⟨next.look, next.ends, fun t ht from_here before => ?_, next.found, next.gaveUp⟩
    -- this look was in vain, and so were those that follow
    rcases Nat.eq_or_lt_of_le from_here with rfl | later
    · exact Nat.not_le.mp few
    · exact next.waited t ht (period_le_of_lt look ht later) before

end Looks

/-! ### A broker while somebody waits -/

/-- **Requests in the order of time**, each with the milliseconds since somebody has begun to wait;
zero for those that were made before. -/
structure Timeline where
  requests : List (Nat × Request)
  sorted : requests.Pairwise fun r r' => r.1 ≤ r'.1

namespace Timeline

/-- The requests that were made until some moment. -/
def made (h : Timeline) (t : Nat) : List Request :=
  (h.requests.filter (·.1 ≤ t)).map (·.2)

/-- **The messages that a broker has acknowledged until some moment.** -/
def acknowledged (h : Timeline) (b t : Nat) : Nat :=
  ((run (h.made t)).2.brokers b).size

/-- What was made until some moment comes before all that was made later. -/
theorem made_grows (h : Timeline) {t t' : Nat} (le : t ≤ t') : h.made t <+: h.made t' := by
  obtain ⟨requests, sorted⟩ := h
  refine List.IsPrefix.map _ ?_
  show requests.filter (·.1 ≤ t) <+: requests.filter (·.1 ≤ t')
  induction requests with
  | nil => exact List.prefix_rfl
  | cons r rest ih =>
    rw [List.pairwise_cons] at sorted
    by_cases early : r.1 ≤ t
    · rw [List.filter_cons_of_pos (by exact decide_eq_true early),
        List.filter_cons_of_pos (by exact decide_eq_true (early.trans le))]
      exact (List.prefix_cons_inj r).mpr (ih sorted.2)
    · -- whatever follows is later still
      have none : (r :: rest).filter (·.1 ≤ t) = [] := by
        refine List.filter_eq_nil_iff.mpr fun r' hr' => ?_
        rw [decide_eq_true_eq]
        rcases List.mem_cons.mp hr' with rfl | later
        · exact early
        · exact fun le => early ((sorted.1 r' later).trans le)
      rw [none]
      exact List.nil_prefix

/-- **Messages are never taken away.** -/
theorem acknowledged_mono (h : Timeline) (b : Nat) : Monotone (h.acknowledged b) := by
  intro t t' le
  obtain ⟨more, hmore⟩ := h.made_grows le
  have longer := log_grows (h.made t) more b
  rw [hmore] at longer
  unfold acknowledged
  rw [Broker.size_eq, Broker.size_eq]
  exact longer.length_le

end Timeline

/-! ### What decides -/

/-- **What waiting for messages comes to**, where `stored t` of them can be seen after `t`
milliseconds. -/
structure Waiting (stored : Nat → Nat) (count timeout : Nat) : Prop where
  /-- What decides is how many there are at the last look, -/
  met : (waitFor stored count timeout).1 = true ↔ count ≤ stored (lastLook timeout)
  /-- which is a multiple of the period and less than a period behind the timeout. -/
  last : period ∣ lastLook timeout ∧ timeout ≤ lastLook timeout ∧ lastLook timeout < timeout + period
  /-- Messages that arrive in time are never missed. -/
  inTime : count ≤ stored timeout → (waitFor stored count timeout).1 = true
  /-- A timeout that is a multiple of the period is honoured, whatever arrives, -/
  multiple : period ∣ timeout → ((waitFor stored count timeout).1 = true ↔ count ≤ stored timeout)
  /-- and any other if nothing decisive arrives between it and the last look, and only then. -/
  honoured : ((waitFor stored count timeout).1 = true ↔ count ≤ stored timeout) ↔
    ¬(stored timeout < count ∧ count ≤ stored (lastLook timeout))
  /-- It ends with the first look at which there are enough, or else with the last one. -/
  ends : Outcome stored count timeout 0 (waitFor stored count timeout)

variable {stored : Nat → Nat} {count timeout : Nat}

theorem waitFor_outcome : Outcome stored count timeout 0 (waitFor stored count timeout) :=
  waitFrom_outcome (Nat.dvd_zero period) (Nat.zero_le _)

/-- Whoever sees more and more messages has waited for them in vain only if too few are there at the
last look. -/
theorem met_iff (mono : Monotone stored) :
    (waitFor stored count timeout).1 = true ↔ count ≤ stored (lastLook timeout) := by
  have outcome : Outcome stored count timeout 0 (waitFor stored count timeout) := waitFor_outcome
  constructor
  · intro met
    calc count ≤ stored (waitFor stored count timeout).2 := outcome.found met
      _ ≤ stored (lastLook timeout) := mono outcome.ends
  · intro enough
    by_contra failed
    obtain ⟨last, few⟩ := outcome.gaveUp (Bool.eq_false_iff.mpr failed)
    rw [last] at few
    exact absurd enough (Nat.not_le.mpr few)

theorem waiting (mono : Monotone stored) : Waiting stored count timeout := by
  have decided : (waitFor stored count timeout).1 = true ↔ count ≤ stored (lastLook timeout) :=
    met_iff mono
  have later : stored timeout ≤ stored (lastLook timeout) := mono (le_lastLook timeout)
  refine ⟨decided, ⟨period_dvd_lastLook timeout, le_lastLook timeout, lastLook_lt timeout⟩,
    fun enough => ?_, fun multiple => ?_, ?_, waitFor_outcome⟩
  · exact decided.mpr (enough.trans later)
  · rw [decided, lastLook_of_dvd multiple]
  · -- enough in time is enough at the last look, so only the other way can fail
    rw [decided]
    omega

/-- **Waiting for a broker is decided at the last look.** Whatever is asked of a broker by anyone
while somebody waits, the wait is successful if there are enough messages at the first look that is
not before the timeout. For multiples of the period that is the timeout itself. -/
theorem wait_decided (h : Timeline) (b count timeout : Nat) : Waiting (h.acknowledged b) count timeout :=
  waiting (h.acknowledged_mono b)

/-! ### A message that comes too late -/

namespace Rehearsal

/-- One message, eight milliseconds after somebody has begun to wait. -/
def late : Timeline where
  requests := [(8, .send (.broker 0) ⟨"later", none, "later", ByteArray.empty⟩)]
  sorted := List.pairwise_singleton ..

/-- **A timeout that is not honoured**: nothing is there after seven milliseconds, and nothing
arrives at the moment of a look, but the message is found after ten. -/
theorem met_too_late :
    (∀ r ∈ late.requests, ¬period ∣ r.1) ∧ late.acknowledged 0 7 = 0 ∧
      waitFor (late.acknowledged 0) 1 7 = (true, 10) ∧
      ¬((waitFor (late.acknowledged 0) 1 7).1 = true ↔ 1 ≤ late.acknowledged 0 7) := by
  have found : waitFor (late.acknowledged 0) 1 7 = (true, 10) := by
    have none : ∀ t < 8, late.acknowledged 0 t = 0 := by decide
    have there : late.acknowledged 0 10 = 1 := rfl
    rw [waitFor, waitFrom, none 0 (by decide), if_neg (by decide), if_neg (by decide), waitFrom,
      none _ (by decide), if_neg (by decide), if_neg (by decide), waitFrom]
    exact if_pos (Nat.le_of_eq there.symm)
  refine ⟨by decide, rfl, found, ?_⟩
  rw [found]
  decide

end Rehearsal

end AuditRelay.Memory
