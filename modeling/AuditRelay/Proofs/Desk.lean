import AuditRelay.Proofs.Stock
import Mathlib.Data.List.Nodup

/-!
# Who waits, and who is served

Who waits for a place and for whom one is kept can be read off the history alone: `Desk.after` does
it. A history is `Orderly` if everything in it was allowed at the desk when it happened; the laws of
the desk are proved by induction over such histories, with one case for each kind of sight.

* `Orderly.apart`: nobody is answered twice, and nobody who was answered still waits.
* `Orderly.accounted`: nobody who has asked is forgotten.
* `Orderly.order`: places are given in the order in which they were asked for. A log that is offered
  without waiting overtakes nobody.
* `Orderly.prompt`: the logs of those who stay enter the queue in the order in which they are given
  their places.

`Run.attended` says that every run is orderly and that its desk is the one of the queue.
-/

namespace AuditRelay

open History

namespace History

/-- Those whose log was accepted or refused. -/
def settled (h : List Sight) : List Nat :=
  (outcomes h).map (·.1)

/-- Those who have asked and were answered. -/
def decided (h : List Sight) : List Nat :=
  (decisions h).map (·.1)

/-- Those whose log is in the queue or was there. -/
def entrants (h : List Sight) : List Nat :=
  (accepted h).map (·.1)

/-- Those who have asked for a place. -/
def askers (h : List Sight) : List Nat :=
  (asked h).map (·.1)

section Append

variable (h h' : List Sight)

@[simp] theorem settled_append : settled (h ++ h') = settled h ++ settled h' := by
  rw [settled, outcomes_append, List.map_append]
  rfl

@[simp] theorem decided_append : decided (h ++ h') = decided h ++ decided h' := by
  rw [decided, decisions_append, List.map_append]
  rfl

@[simp] theorem entrants_append : entrants (h ++ h') = entrants h ++ entrants h' := by
  rw [entrants, accepted_append, List.map_append]
  rfl

@[simp] theorem askers_append : askers (h ++ h') = askers h ++ askers h' := by
  rw [askers, asked_append, List.map_append]
  rfl

end Append

variable {h : List Sight} {t : Nat}

/-- Whoever asks uses a ticket. -/
theorem mem_tickets_of_mem_askers (ht : t ∈ askers h) : t ∈ tickets h := by
  obtain ⟨⟨t', l⟩, hmem, rfl⟩ := List.mem_map.mp ht
  obtain ⟨s, hs, hr⟩ := List.mem_filterMap.mp hmem
  refine List.mem_filterMap.mpr ⟨s, hs, ?_⟩
  cases s with
  | asked t l stays =>
    obtain ⟨rfl, rfl⟩ := Prod.mk.inj (Option.some.inj hr)
    rfl
  | _ => exact absurd hr (by simp [request?])

/-- Whoever goes away has asked for a place, too. -/
theorem exists_asked_of_goer (goer : t ∈ goers h) : ∃ l, (t, l) ∈ asked h := by
  obtain ⟨s, hs, hg⟩ := List.mem_filterMap.mp goer
  cases s with
  | asked t' l stays =>
    cases stays with
    | false =>
      obtain rfl : t' = t := Option.some.inj hg
      exact ⟨l, List.mem_filterMap.mpr ⟨_, hs, rfl⟩⟩
    | true => cases hg
  | _ => cases hg

/-- What has entered the queue was accepted. -/
theorem outcomes_true_of_mem_entrants (ht : t ∈ entrants h) : (t, true) ∈ outcomes h := by
  obtain ⟨⟨t', l⟩, hmem, rfl⟩ := List.mem_map.mp ht
  obtain ⟨s, hs, hr⟩ := List.mem_filterMap.mp hmem
  refine List.mem_filterMap.mpr ⟨s, hs, ?_⟩
  cases s with
  | offered t l r =>
    cases r with
    | accepted =>
      obtain ⟨rfl, rfl⟩ := Prod.mk.inj (Option.some.inj hr)
      rfl
    | _ => exact absurd hr (by simp [acceptance?])
  | admitted t l =>
    obtain ⟨rfl, rfl⟩ := Prod.mk.inj (Option.some.inj hr)
    rfl
  | _ => exact absurd hr (by simp [acceptance?])

/-- An answer to someone who has asked is a decision about a log. -/
theorem decisions_subset_outcomes (h : List Sight) : decisions h ⊆ outcomes h := by
  intro e he
  obtain ⟨s, hs, hd⟩ := List.mem_filterMap.mp he
  refine List.mem_filterMap.mpr ⟨s, hs, ?_⟩
  cases s with
  | admitted t l => exact hd
  | turnedAway t => exact hd
  | _ => exact absurd hd (by simp [decision?])

theorem mem_settled_of_mem_entrants (ht : t ∈ entrants h) : t ∈ settled h :=
  List.mem_map_of_mem (outcomes_true_of_mem_entrants ht)

end History

/-! ### The desk -/

/-- The producers that wait, and those for whom a place is kept. -/
structure Desk where
  waiting : List (Waiter Log)
  kept : List Nat

namespace Desk

/-- The tickets of those who wait. -/
def tickets (k : Desk) : List Nat :=
  k.waiting.map (·.ticket)

/-- Someone goes away. -/
def dismiss (k : Desk) (t : Nat) : Desk where
  waiting := k.waiting.filter fun w => w.ticket ≠ t
  kept := k.kept.erase t

/-- What is seen changes the desk. -/
def note (k : Desk) : Sight → Desk
  | .asked t l stays => { k with waiting := k.waiting ++ [⟨t, if stays then some l else none⟩] }
  | .placed t => ⟨k.waiting.tail, k.kept ++ [t]⟩
  | .admitted t _ => { k with kept := k.kept.erase t }
  | .turnedAway t => k.dismiss t
  | .withdrawn t => k.dismiss t
  | _ => k

/-- The desk after a history. -/
def after (h : List Sight) : Desk :=
  h.foldl note ⟨[], []⟩

/-- Everyone who waits or has a place kept. -/
def present (k : Desk) : List Nat :=
  k.kept ++ k.tickets

@[simp] theorem after_snoc (h : List Sight) (s : Sight) : after (h ++ [s]) = (after h).note s :=
  List.foldl_append ..

theorem tickets_dismiss (k : Desk) (t : Nat) :
    (k.dismiss t).tickets = k.tickets.filter (· ≠ t) := by
  rw [tickets, tickets, List.filter_map]
  rfl

theorem present_dismiss_sublist (k : Desk) (t : Nat) :
    (k.dismiss t).present.Sublist k.present := by
  refine List.Sublist.append List.erase_sublist ?_
  rw [tickets_dismiss]
  exact List.filter_sublist

/-- Whoever goes away is not there any more, and the others stay. -/
theorem present_dismiss {k : Desk} (nodup : k.present.Nodup) (t : Nat) :
    (k.dismiss t).present = k.present.filter (· ≠ t) := by
  have hkept : k.kept.Nodup := (List.nodup_append.mp nodup).1
  rw [present, tickets_dismiss, present, List.filter_append]
  refine congrArg (· ++ _) ?_
  -- a place is kept once at most, so erasing it is filtering it out
  rw [dismiss, hkept.erase_eq_filter]
  exact List.filter_congr fun t' _ => Bool.eq_iff_iff.mpr (by simp)

theorem not_mem_present_dismiss {k : Desk} (nodup : k.present.Nodup) (t : Nat) :
    t ∉ (k.dismiss t).present := by
  rw [present_dismiss nodup]
  exact fun ht => of_decide_eq_true (List.mem_filter.mp ht).2 rfl

theorem mem_present_dismiss {k : Desk} {t t' : Nat} (ht : t' ∈ k.present) (ne : t' ≠ t) :
    t' ∈ (k.dismiss t).present := by
  rcases List.mem_append.mp ht with hk | hw
  · exact List.mem_append_left _ ((List.mem_erase_of_ne ne).mpr hk)
  · refine List.mem_append_right _ ?_
    rw [tickets_dismiss]
    exact List.mem_filter.mpr ⟨hw, decide_eq_true ne⟩

/-- Whoever waits longest is given a place. -/
theorem tickets_placed {k : Desk} {t : Nat} (first : k.tickets.head? = some t) :
    k.tickets = t :: (k.note (.placed t)).tickets := by
  obtain ⟨rest, hrest⟩ := List.head?_eq_some_iff.mp first
  have htail : (k.note (.placed t)).tickets = k.tickets.tail := List.map_tail
  rw [htail, hrest]
  rfl

/-- Nobody else moves then. -/
theorem present_placed {k : Desk} {t : Nat} (first : k.tickets.head? = some t) :
    (k.note (.placed t)).present = k.present := by
  rw [present, present, tickets_placed first]
  exact List.append_assoc ..

/-- What may be seen next after a history. -/
def Allows (h : List Sight) : Sight → Prop
  | .offered t _ r => t ∉ History.tickets h ∧ (r = .accepted → (after h).waiting = [])
  | .asked t _ _ => t ∉ History.tickets h
  | .placed t => (after h).tickets.head? = some t
  | .admitted t l =>
    t ∈ (after h).kept ∧ (t, l) ∈ asked h ∧ (t ∈ goers h ∨ (placed h).getLast? = some t)
  | .turnedAway t => t ∈ (after h).present
  | .withdrawn t => t ∈ askers h
  | _ => True

end Desk

/-- **Histories in which everything was allowed.** -/
inductive Orderly : List Sight → Prop where
  | nil : Orderly []
  | snoc {h : List Sight} {s : Sight} (before : Orderly h) (allowed : Desk.Allows h s) :
    Orderly (h ++ [s])

/-- One of some tickets is moved behind the others, and the rest stay at most. -/
theorem nodup_settle {xs ys ys' : List Nat} {t : Nat} (nodup : (xs ++ ys).Nodup) (mem : t ∈ ys)
    (rest : ys'.Sublist ys) (gone : t ∉ ys') : (xs ++ [t] ++ ys').Nodup := by
  -- up to their order, one ticket is taken from `ys` and put in front
  have hperm : (xs ++ [t] ++ ys').Perm (t :: (xs ++ ys')) := by
    rw [List.append_assoc]
    exact List.perm_middle
  refine hperm.nodup_iff.mpr (List.nodup_cons.mpr ⟨?_, ?_⟩)
  · intro ht
    rcases List.mem_append.mp ht with hx | hy
    · exact (List.nodup_append.mp nodup).2.2 t hx t mem rfl
    · exact gone hy
  · exact nodup.sublist (List.Sublist.append_left rest xs)

theorem nodup_snoc {xs : List Nat} {t : Nat} (nodup : xs.Nodup) (fresh : t ∉ xs) :
    (xs ++ [t]).Nodup := by
  have hp : (xs ++ [t]).Perm (t :: xs) := List.perm_append_singleton t xs
  exact hp.nodup_iff.mpr (List.nodup_cons.mpr ⟨fresh, nodup⟩)

namespace Orderly

variable {h : List Sight}

/-- No ticket is used twice. -/
theorem nodup_tickets (o : Orderly h) : (tickets h).Nodup := by
  induction o with
  | nil => exact List.nodup_nil
  | @snoc h s before allowed ih =>
    rw [tickets_append]
    cases s with
    | offered t l r => exact nodup_snoc ih allowed.1
    | asked t l stays => exact nodup_snoc ih allowed
    | _ => rw [show tickets [_] = [] from rfl, List.append_nil]; exact ih

/-- Nobody is at the desk who was not there before and has not asked now. -/
theorem present_snoc_sublist {s : Sight} (allowed : Desk.Allows h s) :
    (Desk.after (h ++ [s])).present.Sublist ((Desk.after h).present ++ askers [s]) := by
  rw [Desk.after_snoc]
  cases s with
  | asked t l stays =>
    rw [Desk.present, Desk.present, List.append_assoc]
    refine List.Sublist.append_left ?_ _
    rw [Desk.tickets, Desk.note, List.map_append]
    exact List.Sublist.refl _
  | placed t =>
    rw [Desk.present_placed allowed]
    exact List.sublist_append_left _ _
  | admitted t l =>
    refine (List.Sublist.append_right List.erase_sublist _).trans ?_
    exact List.sublist_append_left _ _
  | turnedAway t =>
    exact (Desk.present_dismiss_sublist _ _).trans (List.sublist_append_left _ _)
  | withdrawn t =>
    exact (Desk.present_dismiss_sublist _ _).trans (List.sublist_append_left _ _)
  | _ => exact List.sublist_append_left _ _

/-- Whoever waits or has a place kept has asked for it. -/
theorem present_subset_askers (o : Orderly h) : (Desk.after h).present ⊆ askers h := by
  induction o with
  | nil => exact List.nil_subset _
  | snoc before allowed ih =>
    rw [askers_append]
    intro t ht
    rcases List.mem_append.mp ((present_snoc_sublist allowed).subset ht) with hold | hnew
    · exact List.mem_append_left _ (ih hold)
    · exact List.mem_append_right _ hnew

/-- The queue decides only about logs that were brought. -/
theorem settled_subset_tickets (o : Orderly h) : settled h ⊆ tickets h := by
  induction o with
  | nil => exact List.nil_subset _
  | @snoc h s before allowed ih =>
    have hpresent : ∀ t ∈ (Desk.after h).present, t ∈ tickets h := fun t ht =>
      mem_tickets_of_mem_askers (before.present_subset_askers ht)
    rw [settled_append, tickets_append]
    intro t ht
    rcases List.mem_append.mp ht with hold | hnew
    · exact List.mem_append_left _ (ih hold)
    · cases s with
      | offered t' l r => cases r <;> exact List.mem_append_right _ hnew
      | admitted t' l =>
        obtain rfl := List.mem_singleton.mp hnew
        exact List.mem_append_left _ (hpresent t (List.mem_append_left _ allowed.1))
      | turnedAway t' =>
        obtain rfl := List.mem_singleton.mp hnew
        exact List.mem_append_left _ (hpresent t allowed)
      | _ => exact absurd hnew List.not_mem_nil

/-- **Nobody is answered twice**, and nobody who was answered still waits. -/
theorem apart (o : Orderly h) : (settled h ++ (Desk.after h).present).Nodup := by
  induction o with
  | nil => exact List.nodup_nil
  | @snoc h s before allowed ih =>
    -- a new ticket was neither decided about nor is it at the desk
    have hnew : ∀ t, t ∉ tickets h → t ∉ settled h ++ (Desk.after h).present := by
      intro t fresh ht
      rcases List.mem_append.mp ht with hs | hp
      · exact fresh (before.settled_subset_tickets hs)
      · exact fresh (mem_tickets_of_mem_askers (before.present_subset_askers hp))
    have hpresent : (Desk.after h).present.Nodup := (List.nodup_append.mp ih).2.1
    rw [settled_append]
    cases s with
    | offered t l r =>
      have hp : t ∉ settled h ++ (Desk.after h).present := hnew t allowed.1
      have hs : settled [.offered t l r] = [t] := by cases r <;> rfl
      rw [Desk.after_snoc, hs, List.append_assoc]
      exact (List.perm_middle.nodup_iff).mpr (List.nodup_cons.mpr ⟨hp, ih⟩)
    | asked t l stays =>
      refine List.Nodup.sublist
        (List.Sublist.append_left (present_snoc_sublist allowed) _) ?_
      rw [show settled [.asked t l stays] = [] from rfl, List.append_nil, ← List.append_assoc]
      exact nodup_snoc ih (hnew t allowed)
    | placed t =>
      rw [Desk.after_snoc, Desk.present_placed allowed]
      exact (List.append_nil (settled h)).symm ▸ ih
    -- a decision moves the ticket from the desk to the settled ones
    | admitted t l =>
      rw [Desk.after_snoc]
      have hkept : (Desk.after h).kept.Nodup := (List.nodup_append.mp hpresent).1
      refine nodup_settle ih (List.mem_append_left _ allowed.1)
        (List.Sublist.append_right List.erase_sublist _) ?_
      intro ht
      rcases List.mem_append.mp ht with hk | hw
      · exact hkept.not_mem_erase hk
      · exact (List.nodup_append.mp hpresent).2.2 t allowed.1 t hw rfl
    | turnedAway t =>
      rw [Desk.after_snoc]
      exact nodup_settle ih allowed (Desk.present_dismiss_sublist _ t)
        (Desk.not_mem_present_dismiss hpresent t)
    | withdrawn t =>
      refine List.Nodup.sublist ?_ ih
      rw [Desk.after_snoc, show settled [.withdrawn t] = [] from rfl, List.append_nil]
      exact List.Sublist.append_left (Desk.present_dismiss_sublist _ t) _
    | _ =>
      rw [Desk.after_snoc, show settled [_] = [] from rfl, List.append_nil]
      exact ih

/-- **First come, first served.** Places are given in the order in which they were asked for, and
those who wait are in that order, behind all who were served. -/
theorem order (o : Orderly h) : (placed h ++ (Desk.after h).tickets).Sublist (tickets h) := by
  induction o with
  | nil => exact List.Sublist.refl _
  | @snoc h s before allowed ih =>
    rw [placed_append, tickets_append, Desk.after_snoc]
    cases s with
    | offered t l r =>
      cases r with
      | accepted =>
        -- an offer is accepted only while nobody waits
        have hw : (Desk.after h).tickets = [] := by
          rw [Desk.tickets, allowed.2 rfl]
          rfl
        change (placed h ++ [t] ++ (Desk.after h).tickets).Sublist _
        rw [hw, List.append_nil] at ih ⊢
        exact List.Sublist.append_right ih [t]
      | full => exact (List.append_nil (placed h)).symm ▸ ih.trans (List.sublist_append_left _ _)
      | closed => exact (List.append_nil (placed h)).symm ▸ ih.trans (List.sublist_append_left _ _)
    -- whoever asks comes last in both lists
    | asked t l stays =>
      have hw : ((Desk.after h).note (.asked t l stays)).tickets = (Desk.after h).tickets ++ [t] :=
        List.map_append ..
      rw [hw, show placed [.asked t l stays] = [] from rfl, List.append_nil, ← List.append_assoc]
      exact List.Sublist.append_right ih [t]
    -- the first of those who wait becomes the last of those who were served
    | placed t =>
      rw [Desk.tickets_placed allowed] at ih
      rw [show placed [.placed t] = [t] from rfl, List.append_assoc,
        show tickets [.placed t] = [] from rfl, List.append_nil]
      exact ih
    -- whoever leaves keeps the order of the others
    | turnedAway t =>
      rw [show placed [.turnedAway t] = [] from rfl, show tickets [.turnedAway t] = [] from rfl,
        List.append_nil, List.append_nil]
      refine List.Sublist.trans (List.Sublist.append_left ?_ _) ih
      exact (Desk.tickets_dismiss _ t).symm ▸ List.filter_sublist
    | withdrawn t =>
      rw [show placed [.withdrawn t] = [] from rfl, show tickets [.withdrawn t] = [] from rfl,
        List.append_nil, List.append_nil]
      refine List.Sublist.trans (List.Sublist.append_left ?_ _) ih
      exact (Desk.tickets_dismiss _ t).symm ▸ List.filter_sublist
    | _ => exact (List.append_nil (placed h)).symm ▸ (List.append_nil (tickets h)).symm ▸ ih

/-- Whoever has a place kept was given it. -/
theorem kept_subset_placed (o : Orderly h) : (Desk.after h).kept ⊆ placed h := by
  induction o with
  | nil => exact List.nil_subset _
  | @snoc h s before allowed ih =>
    rw [placed_append, Desk.after_snoc]
    intro t ht
    cases s with
    -- only a place that is given can be kept
    | placed t' =>
      rcases List.mem_append.mp ht with hold | hnew
      · exact List.mem_append_left _ (ih hold)
      · exact List.mem_append_right _ hnew
    | admitted t' l => exact List.mem_append_left _ (ih (List.mem_of_mem_erase ht))
    | turnedAway t' => exact List.mem_append_left _ (ih (List.mem_of_mem_erase ht))
    | withdrawn t' => exact List.mem_append_left _ (ih (List.mem_of_mem_erase ht))
    | _ => exact List.mem_append_left _ (ih ht)

/-- What enters the queue was given a place. -/
theorem entrants_subset_placed (o : Orderly h) : entrants h ⊆ placed h := by
  induction o with
  | nil => exact List.nil_subset _
  | @snoc h s before allowed ih =>
    rw [placed_append, entrants_append]
    intro t ht
    rcases List.mem_append.mp ht with hold | hnew
    · exact List.mem_append_left _ (ih hold)
    · cases s with
      | offered t' l r => cases r <;> exact List.mem_append_right _ hnew
      | admitted t' l =>
        obtain rfl := List.mem_singleton.mp hnew
        exact List.mem_append_left _ (before.kept_subset_placed allowed.1)
      | _ => exact absurd hnew List.not_mem_nil

/-- Whoever leaves the desk is answered or gives up. -/
theorem mem_present_snoc {s : Sight} (allowed : Desk.Allows h s) {t : Nat}
    (ht : t ∈ (Desk.after h).present) :
    t ∈ decided [s] ∨ t ∈ (Desk.after (h ++ [s])).present ∨ .withdrawn t = s := by
  rw [Desk.after_snoc]
  cases s with
  | asked t' l stays =>
    refine Or.inr (Or.inl ?_)
    rcases List.mem_append.mp ht with hk | hw
    · exact List.mem_append_left _ hk
    · refine List.mem_append_right _ ?_
      rw [Desk.tickets, Desk.note, List.map_append]
      exact List.mem_append_left _ hw
  | placed t' => exact Or.inr (Or.inl ((Desk.present_placed allowed).symm ▸ ht))
  -- only the one who is admitted leaves, and that is a decision
  | admitted t' l =>
    by_cases he : t = t'
    · exact Or.inl (List.mem_singleton.mpr he)
    · rcases List.mem_append.mp ht with hk | hw
      · exact Or.inr (Or.inl (List.mem_append_left _ ((List.mem_erase_of_ne he).mpr hk)))
      · exact Or.inr (Or.inl (List.mem_append_right _ hw))
  | turnedAway t' =>
    by_cases he : t = t'
    · exact Or.inl (List.mem_singleton.mpr he)
    · exact Or.inr (Or.inl (Desk.mem_present_dismiss ht he))
  | withdrawn t' =>
    by_cases he : t = t'
    · exact Or.inr (Or.inr (congrArg _ he))
    · exact Or.inr (Or.inl (Desk.mem_present_dismiss ht he))
  | _ => exact Or.inr (Or.inl ht)

/-- Whoever asks is at the desk. -/
theorem mem_present_of_asks {s : Sight} {t : Nat} (ht : t ∈ askers [s]) :
    t ∈ (Desk.after (h ++ [s])).present := by
  rw [Desk.after_snoc]
  cases s with
  | asked t' l stays =>
    refine List.mem_append_right _ ?_
    rw [Desk.tickets, Desk.note, List.map_append]
    exact List.mem_append_right _ ht
  | _ => exact absurd ht List.not_mem_nil

/-- **Nobody is forgotten.** Whoever asks is answered, is at the desk or has given up. -/
theorem accounted (o : Orderly h) {t : Nat} (ht : t ∈ askers h) :
    t ∈ decided h ∨ t ∈ (Desk.after h).present ∨ .withdrawn t ∈ h := by
  induction o with
  | nil => exact absurd ht List.not_mem_nil
  | @snoc h s before allowed ih =>
    rw [decided_append, List.mem_append, List.mem_append, List.mem_singleton]
    rw [askers_append, List.mem_append] at ht
    rcases ht with hold | hnew
    · -- who was accounted for before either stays so or leaves the desk now
      rcases ih hold with hs | hp | hw
      · exact Or.inl (Or.inl hs)
      · rcases mem_present_snoc allowed hp with h1 | h1 | h1
        · exact Or.inl (Or.inr h1)
        · exact Or.inr (Or.inl h1)
        · exact Or.inr (Or.inr (Or.inr h1))
      · exact Or.inr (Or.inr (Or.inl hw))
    · exact Or.inr (Or.inl (mem_present_of_asks hnew))

/-- **There is one decision about a log.** -/
theorem outcome_unique (o : Orderly h) {t : Nat} {b b' : Bool} (hb : (t, b) ∈ outcomes h)
    (hb' : (t, b') ∈ outcomes h) : b = b' := by
  have hnodup : ((outcomes h).map (·.1)).Nodup := (List.nodup_append.mp o.apart).1
  exact congrArg Prod.snd (List.inj_on_of_nodup_map hnodup hb hb' rfl)

/-- What was refused is not in the queue and never was. -/
theorem not_mem_entrants_of_refused (o : Orderly h) {t : Nat} (refused : (t, false) ∈ outcomes h) :
    t ∉ entrants h :=
  fun ht => absurd (o.outcome_unique refused (outcomes_true_of_mem_entrants ht)) (by simp)

/-- Whatever is in the queue was decided about. -/
theorem entrants_sublist_settled (h : List Sight) : (entrants h).Sublist (settled h) := by
  induction h with
  | nil => exact List.Sublist.refl _
  | cons s rest ih =>
    have hentrants := entrants_append [s] rest
    have hsettled := settled_append [s] rest
    rw [List.singleton_append] at hentrants hsettled
    rw [hentrants, hsettled]
    refine List.Sublist.append ?_ ih
    cases s with
    | offered t l r =>
      cases r <;> simp [entrants, settled, accepted, outcomes, acceptance?, outcome?]
    | admitted t l => exact List.Sublist.refl _
    | _ => exact List.nil_sublist _

/-- No log enters the queue twice. -/
theorem nodup_entrants (o : Orderly h) : (entrants h).Nodup :=
  ((List.nodup_append.mp o.apart).1).sublist (entrants_sublist_settled h)

/-- Nothing enters the queue. -/
theorem prompt_still {s : Sight} (ih : ((entrants h).filter (· ∉ goers h)).Sublist (placed h))
    (silent : entrants [s] = []) :
    ((entrants (h ++ [s])).filter (· ∉ goers (h ++ [s]))).Sublist (placed (h ++ [s])) := by
  rw [entrants_append, silent, List.append_nil, goers_append, placed_append]
  refine List.Sublist.trans ?_ (ih.trans (List.sublist_append_left _ _))
  -- more goers only take away from the list
  refine List.monotone_filter_right _ fun t ht => ?_
  exact decide_eq_true fun hmem => of_decide_eq_true ht (List.mem_append_left _ hmem)

/-- **Whoever stays is not overtaken.** The logs of those who stay, and those that are offered,
enter the queue in the order in which places are given. -/
theorem prompt (o : Orderly h) : ((entrants h).filter (· ∉ goers h)).Sublist (placed h) := by
  induction o with
  | nil => exact List.Sublist.refl _
  | @snoc h s before allowed ih =>
    cases s with
    -- an offer that is accepted is placed and enters at the same moment
    | offered t l r =>
      cases r with
      | accepted =>
        rw [entrants_append, goers_append, placed_append,
          show goers [.offered t l .accepted] = [] from rfl, List.append_nil, List.filter_append]
        exact List.Sublist.append ih List.filter_sublist
      | full => exact prompt_still ih rfl
      | closed => exact prompt_still ih rfl
    | admitted t l =>
      rw [entrants_append, goers_append, placed_append,
        show goers [.admitted t l] = [] from rfl, show placed [.admitted t l] = [] from rfl,
        show entrants [.admitted t l] = [t] from rfl, List.append_nil, List.append_nil,
        List.filter_append]
      -- whoever has gone away is not in the list; whoever stays was placed last
      rcases allowed.2.2 with hgoer | hlast
      · have hnone : [t].filter (fun x => decide (x ∉ goers h)) = [] := by simp [hgoer]
        rw [hnone, List.append_nil]
        exact ih
      · -- the place that was given last is that of `t`, whose log is new in the queue
        obtain ⟨before_t, hplaced⟩ := List.getLast?_eq_some_iff.mp hlast
        have hnew : t ∉ entrants h := fun hmem =>
          (List.nodup_append.mp before.apart).2.2 t (mem_settled_of_mem_entrants hmem) t
            (List.mem_append_left _ allowed.1) rfl
        rw [hplaced] at ih ⊢
        obtain ⟨l₁, l₂, heq, hl₁, hl₂⟩ := List.sublist_append_iff.mp ih
        have hnil : l₂ = [] := by
          refine List.eq_nil_iff_forall_not_mem.mpr fun x hx => hnew ?_
          obtain rfl := List.mem_singleton.mp (hl₂.subset hx)
          exact (List.mem_filter.mp (heq ▸ List.mem_append_right l₁ hx)).1
        rw [heq, hnil, List.append_nil]
        exact List.Sublist.append hl₁ List.filter_sublist
    | _ => exact prompt_still ih rfl

/-- The queue has the log of whoever stays, and none of whoever has gone away. -/
theorem request_of_waiting (o : Orderly h) {w : Waiter Log} (hw : w ∈ (Desk.after h).waiting) :
    match w.item with
    | some l => (w.ticket, l) ∈ asked h
    | none => w.ticket ∈ goers h := by
  induction o with
  | nil => exact absurd hw List.not_mem_nil
  | @snoc h s before allowed ih =>
    rw [Desk.after_snoc] at hw
    have hold : w ∈ (Desk.after h).waiting → match w.item with
        | some l => (w.ticket, l) ∈ asked (h ++ [s])
        | none => w.ticket ∈ goers (h ++ [s]) := by
      intro hmem
      have := ih hmem
      cases hi : w.item with
      | none =>
        rw [hi] at this
        rw [goers_append]
        exact List.mem_append_left _ this
      | some l =>
        rw [hi] at this
        rw [asked_append]
        exact List.mem_append_left _ this
    cases s with
    | asked t l stays =>
      rcases List.mem_append.mp hw with hmem | hnew
      · exact hold hmem
      · obtain rfl := List.mem_singleton.mp hnew
        cases stays with
        | false =>
          rw [goers_append]
          exact List.mem_append_right _ (List.mem_singleton.mpr rfl)
        | true =>
          rw [asked_append]
          exact List.mem_append_right _ (List.mem_singleton.mpr rfl)
    -- the other sights only take from those who wait
    | placed t => exact hold (List.mem_of_mem_tail hw)
    | turnedAway t => exact hold (List.mem_of_mem_filter hw)
    | withdrawn t => exact hold (List.mem_of_mem_filter hw)
    | _ => exact hold hw

/-- What does not concern the producers leaves the desk as it is. -/
theorem idle {s : Sight} (o : Orderly h) (allowed : Desk.Allows h s)
    (silent : ∀ k : Desk, k.note s = k) :
    Orderly (h ++ [s]) ∧ Desk.after (h ++ [s]) = Desk.after h :=
  ⟨.snoc o allowed, by rw [Desk.after_snoc, silent]⟩

/-- All who are at the desk are turned away, one after the other. -/
theorem turnAll {ts : List Nat} (o : Orderly h) (all : (Desk.after h).present = ts) :
    Orderly (h ++ ts.map .turnedAway) ∧ Desk.after (h ++ ts.map .turnedAway) = ⟨[], []⟩ := by
  induction ts generalizing h with
  | nil =>
    obtain ⟨hk, hw⟩ := List.append_eq_nil_iff.mp all
    rw [List.map_nil, List.append_nil]
    refine ⟨o, ?_⟩
    rw [← hk, ← List.map_eq_nil_iff.mp hw]
  -- the first one is turned away, and the others are still there
  | cons t ts ih =>
    have hmem : t ∈ (Desk.after h).present := all ▸ List.mem_cons_self
    have o' : Orderly (h ++ [.turnedAway t]) := .snoc o hmem
    have hnodup : (t :: ts).Nodup := all ▸ (List.nodup_append.mp o.apart).2.1
    have hrest : (Desk.after (h ++ [.turnedAway t])).present = ts := by
      rw [Desk.after_snoc]
      change ((Desk.after h).dismiss t).present = ts
      rw [Desk.present_dismiss (all ▸ hnodup), all, List.filter_cons_of_neg (by simp)]
      refine List.filter_eq_self.mpr fun t' ht' => decide_eq_true ?_
      rintro rfl
      exact (List.nodup_cons.mp hnodup).1 ht'
    have := ih o' hrest
    rw [List.append_assoc, List.singleton_append] at this
    exact this

end Orderly

/-! ### Every run is orderly -/

namespace Dispatcher

variable {β : Type} {a : Assignment β} {C : Nat} {h seen : List Sight} {d d' : Dispatcher β}

/-- **The queue is the desk.** -/
structure Attended (h : List Sight) (d : Dispatcher β) : Prop where
  orderly : Orderly h
  desk : Desk.after h = ⟨d.queue.waiting, d.queue.kept⟩
  /-- Places are kept only for those who have gone away. -/
  gone : d.queue.kept ⊆ goers h
  /-- What the producers are told is what was decided. -/
  arrivals : d.arrivals.reverse.map (fun r => (r.ticket, r.accepted)) = decisions h

theorem Attended.begin {broker : β} {q : Queue Log} {ids : IdStream}
    (hq : Queue.new? C = some q) : Attended [] (Dispatcher.new broker q ids) := by
  obtain ⟨rfl, -⟩ := Queue.new?_eq_some hq
  exact ⟨.nil, rfl, List.nil_subset _, rfl⟩

/-- Decisions are added in the order in which they are made. -/
theorem arrivals_resolve (d : Dispatcher β) (ts : List Nat) (b : Bool) :
    (d.resolve ts b).arrivals.reverse.map (fun r => (r.ticket, r.accepted))
      = d.arrivals.reverse.map (fun r => (r.ticket, r.accepted)) ++ ts.map (·, b) := by
  rw [resolve, List.reverse_append, List.reverse_reverse, List.map_append, List.map_map]
  rfl

/-- Nothing is seen that concerns a producer. -/
theorem Attended.still (ha : Attended h d) (waiting : d'.queue.waiting = d.queue.waiting)
    (kept : d'.queue.kept = d.queue.kept) (arrivals : d'.arrivals = d.arrivals)
    (silent : seen = [] ∨ ∃ s, seen = [s] ∧ Desk.Allows h s ∧ (∀ k : Desk, k.note s = k) ∧
      goer? s = none ∧ decision? s = none) : Attended (h ++ seen) d' := by
  rcases silent with rfl | ⟨s, rfl, allowed, note, hg, hd⟩
  · rw [List.append_nil]
    exact ⟨ha.orderly, by rw [waiting, kept]; exact ha.desk, by rw [kept]; exact ha.gone,
      by rw [arrivals]; exact ha.arrivals⟩
  · obtain ⟨ho, hk⟩ := ha.orderly.idle allowed note
    refine ⟨ho, ?_, ?_, ?_⟩
    · rw [hk, waiting, kept]
      exact ha.desk
    · rw [kept, goers_append, show goers [s] = [] by simp [goers, hg], List.append_nil]
      exact ha.gone
    · rw [arrivals, decisions_append, show decisions [s] = [] by simp [decisions, hd],
        List.append_nil]
      exact ha.arrivals

/-- A place has become free, and whoever waits longest gets it. -/
theorem Attended.served {q : Queue Log} (ho : Orderly h) (desk : Desk.after h = ⟨q.waiting, q.kept⟩)
    (gone : q.kept ⊆ goers h) :
    Orderly (h ++ q.served) ∧ Desk.after (h ++ q.served) = ⟨q.refill.2.waiting, q.refill.2.kept⟩ ∧
      q.refill.2.kept ⊆ goers (h ++ q.served) ∧
      decisions (h ++ q.served) = decisions h ++ q.refill.1.toList.map (·, true) := by
  cases hw : q.waiting with
  | nil =>
    have hs : q.served = [] := by rw [Queue.served, hw]
    have hr : q.refill = (none, q) := by rw [Queue.refill, hw]
    rw [hs, hr, List.append_nil]
    exact ⟨ho, desk, gone, (List.append_nil _).symm⟩
  | cons w rest =>
    obtain ⟨t, item⟩ := w
    have hmem : (⟨t, item⟩ : Waiter Log) ∈ (Desk.after h).waiting := by
      rw [desk, hw]
      exact List.mem_cons_self
    -- the place goes to whoever waits longest
    have hplace : Desk.Allows h (.placed t) := by
      change (Desk.after h).tickets.head? = some t
      rw [desk, Desk.tickets, hw]
      rfl
    have ho₁ : Orderly (h ++ [.placed t]) := .snoc ho hplace
    have hd₁ : Desk.after (h ++ [.placed t]) = ⟨rest, q.kept ++ [t]⟩ := by
      rw [Desk.after_snoc, desk, hw]
      rfl
    have hreq := ho.request_of_waiting hmem
    cases item with
    -- whoever has gone away has the place kept
    | none =>
      have hs : q.served = [.placed t] := by rw [Queue.served, hw]
      have hr : q.refill = (none, { q with kept := q.kept ++ [t], waiting := rest }) := by
        rw [Queue.refill, hw]
      rw [hs, hr]
      refine ⟨ho₁, hd₁, ?_, ?_⟩
      · rw [goers_append]
        intro t' ht'
        refine List.mem_append_left _ ?_
        rcases List.mem_append.mp ht' with hold | hnew
        · exact gone hold
        · exact List.mem_singleton.mp hnew ▸ hreq
      · rw [decisions_append]
        rfl
    -- whoever stays is in the queue at once
    | some l =>
      have hs : q.served = [.placed t] ++ [.admitted t l] := by rw [Queue.served, hw]; rfl
      have hr : q.refill = (some t, { q with items := q.items ++ [l], waiting := rest }) := by
        rw [Queue.refill, hw]
      -- the place was free, so it was kept for nobody else with this ticket
      have hfree : t ∉ q.kept := by
        intro hk
        have hn := (List.nodup_append.mp ho.apart).2.1
        rw [desk, Desk.present, Desk.tickets, hw] at hn
        exact (List.nodup_append.mp hn).2.2 t hk t List.mem_cons_self rfl
      rw [hs, hr, ← List.append_assoc]
      refine ⟨.snoc ho₁ ⟨?_, ?_, Or.inr ?_⟩, ?_, ?_, ?_⟩
      · rw [hd₁]
        exact List.mem_append_right _ List.mem_cons_self
      · rw [asked_append]
        exact List.mem_append_left _ hreq
      · rw [placed_append]
        exact List.getLast?_concat
      · rw [Desk.after_snoc, hd₁]
        change (⟨rest, (q.kept ++ [t]).erase t⟩ : Desk) = _
        rw [List.erase_append_right _ hfree, List.erase_cons_head, List.append_nil]
      · rw [goers_append, goers_append]
        exact fun t' ht' => List.mem_append_left _ (List.mem_append_left _ (gone ht'))
      · rw [decisions_append, decisions_append]
        exact congrArg (· ++ _) (List.append_nil _)

/-- The receiver of the queue goes away, and everyone at the desk learns of it. -/
theorem Attended.close (hs : Stock C h d) (ha : Attended h d) {d₁ : Dispatcher β}
    (queue : d₁.queue = d.queue) (arrivals : d₁.arrivals = d.arrivals)
    {before : List Sight} (silent : before = [] ∨ before = [.givenUp]) :
    Attended (h ++ (before ++ d.dismissed)) d₁.closeQueue := by
  have ha₀ : Attended (h ++ before) d :=
    ha.still rfl rfl rfl
      (silent.imp_right fun hb => ⟨.givenUp, hb, trivial, fun _ => rfl, rfl, rfl⟩)
  -- a queue that is open dismisses everyone; one that is closed has nobody left
  have hend : Orderly (h ++ before ++ d.dismissed) ∧
      Desk.after (h ++ before ++ d.dismissed) = ⟨[], []⟩ ∧
      decisions d.dismissed = d.queue.close.1.map (·, false) := by
    unfold dismissed
    cases ho : d.queue.isOpen with
    | true =>
      rw [if_pos rfl]
      have hall : (Desk.after (h ++ before)).present = d.queue.close.1 := by
        rw [ha₀.desk]
        rfl
      obtain ⟨h1, h2⟩ := ha₀.orderly.turnAll hall
      refine ⟨h1, h2, ?_⟩
      rw [decisions, List.filterMap_map, ← List.filterMap_eq_map]
      rfl
    | false =>
      obtain ⟨-, hk, hw⟩ := hs.sound.closed ho
      rw [if_neg (by simp), List.append_nil]
      refine ⟨ha₀.orderly, ?_, ?_⟩
      · rw [ha₀.desk, hk, hw]
      · rw [Queue.close, hk, hw]
        rfl
  rw [← List.append_assoc]
  refine ⟨hend.1, hend.2.1, List.nil_subset _, ?_⟩
  rw [decisions_append, hend.2.2, ← ha₀.arrivals, ← arrivals, ← queue]
  exact arrivals_resolve ..

/-- A dispatcher that ends loses the receiver of the queue last. -/
theorem Ending.closes (ending : Ending d d') :
    ∃ d₁ : Dispatcher β, d' = d₁.closeQueue ∧ d₁.queue = d.queue ∧ d₁.arrivals = d.arrivals := by
  cases ending with
  | unconnected stage cancelled link => exact ⟨_, rfl, rfl, rfl⟩
  | exhausted stage left drained => exact ⟨_, rfl, rfl, rfl⟩
  | resigned stage cancelled => exact ⟨_, rfl, rfl, rfl⟩

theorem Attended.turn (ha : Attended h d) (turn : Turn a d seen d') : Attended (h ++ seen) d' := by
  cases turn with
  | @took raw rest stage items =>
    obtain ⟨ho, hk, hg, hd⟩ := Attended.served (q := { d.queue with items := rest })
      ha.orderly ha.desk ha.gone
    refine ⟨ho, hk, hg, ?_⟩
    rw [show d.queue.served = ({ d.queue with items := rest } : Queue Log).served from rfl, hd,
      ← ha.arrivals]
    exact arrivals_resolve ..
  | connecting stage dial goesOn => exact ha.still rfl rfl rfl (Or.inl rfl)
  | connected stage dial => exact ha.still rfl rfl rfl (Or.inl rfl)
  | sent stage =>
    exact ha.still rfl rfl rfl (Or.inr ⟨_, rfl, trivial, fun _ => rfl, rfl, rfl⟩)
  | acknowledged stage arrived answer =>
    exact ha.still rfl rfl rfl (Or.inr ⟨_, rfl, trivial, fun _ => rfl, rfl, rfl⟩)
  | refused stage arrived answer =>
    exact ha.still rfl rfl rfl (Or.inr ⟨_, rfl, trivial, fun _ => rfl, rfl, rfl⟩)
  | woke stage due => exact ha.still rfl rfl rfl (Or.inl rfl)

/-- Someone asks for a place. -/
theorem Attended.ask (ha : Attended h d) {t : Nat} {l : Log} (stays : Bool)
    (fresh : t ∉ tickets h) :
    Orderly (h ++ [.asked t l stays]) ∧ Desk.after (h ++ [.asked t l stays])
      = ⟨d.queue.waiting ++ [⟨t, if stays then some l else none⟩], d.queue.kept⟩ := by
  refine ⟨.snoc ha.orderly fresh, ?_⟩
  rw [Desk.after_snoc, ha.desk]
  rfl

/-- Whoever is new has no place kept and does not wait. -/
theorem Attended.not_mem_present (ha : Attended h d) {t : Nat} (fresh : t ∉ tickets h) :
    t ∉ d.queue.kept ∧ t ∉ d.queue.waiting.map (·.ticket) := by
  have hsub := ha.orderly.present_subset_askers
  rw [ha.desk] at hsub
  exact ⟨fun hk => fresh (mem_tickets_of_mem_askers (hsub (List.mem_append_left _ hk))),
    fun hw => fresh (mem_tickets_of_mem_askers (hsub (List.mem_append_right _ hw)))⟩

/-- A log for which a place is asked finds one at once. -/
theorem Attended.enqueued (hs : Stock C h d) (ha : Attended h d) {t : Nat} {l : Log} {stays : Bool}
    (fresh : t ∉ tickets h) (room : d.queue.load < d.queue.capacity) :
    Attended (h ++ [.asked t l stays, .placed t, .admitted t l])
      ({ d with queue := { d.queue with items := d.queue.items ++ [l] } }.resolve [t] true) := by
  -- nobody waits while there is room
  have hwaiting : d.queue.waiting = [] := by
    by_contra hw
    exact absurd (hs.sound.full hw) (Nat.ne_of_lt room)
  obtain ⟨ho₁, hd₁⟩ := ha.ask (l := l) stays fresh
  rw [hwaiting, List.nil_append] at hd₁
  have ho₂ : Orderly (h ++ [.asked t l stays] ++ [.placed t]) := by
    refine .snoc ho₁ ?_
    change (Desk.after _).tickets.head? = some t
    rw [hd₁]
    rfl
  have hd₂ : Desk.after (h ++ [.asked t l stays] ++ [.placed t]) = ⟨[], d.queue.kept ++ [t]⟩ := by
    rw [Desk.after_snoc, hd₁]
    rfl
  -- the log is in the queue as soon as the place is given
  have ho₃ : Orderly (h ++ [.asked t l stays] ++ [.placed t] ++ [.admitted t l]) := by
    refine .snoc ho₂ ⟨?_, ?_, Or.inr ?_⟩
    · rw [hd₂]
      exact List.mem_append_right _ List.mem_cons_self
    · rw [asked_append, asked_append]
      exact List.mem_append_left _ (List.mem_append_right _ List.mem_cons_self)
    · rw [placed_append]
      exact List.getLast?_concat
  have heq : h ++ [.asked t l stays, .placed t, .admitted t l]
      = h ++ [.asked t l stays] ++ [.placed t] ++ [.admitted t l] := by simp
  rw [heq]
  refine ⟨ho₃, ?_, ?_, ?_⟩
  · rw [Desk.after_snoc, hd₂]
    change (⟨[], (d.queue.kept ++ [t]).erase t⟩ : Desk) = ⟨d.queue.waiting, d.queue.kept⟩
    rw [List.erase_append_right _ (ha.not_mem_present fresh).1, List.erase_cons_head,
      List.append_nil, hwaiting]
  · intro t' ht'
    rw [goers_append, goers_append, goers_append]
    exact List.mem_append_left _ (List.mem_append_left _ (List.mem_append_left _ (ha.gone ht')))
  · rw [decisions_append, decisions_append, decisions_append, ← ha.arrivals, arrivals_resolve]
    change _ = _ ++ [] ++ [] ++ [(t, true)]
    rw [List.append_nil, List.append_nil]
    rfl

/-- The queue is closed for someone who asks. -/
theorem Attended.turnedAway (hs : Stock C h d) (ha : Attended h d) {t : Nat} {l : Log}
    {stays : Bool} (fresh : t ∉ tickets h) (closed : d.queue.isOpen = false) :
    Attended (h ++ [.asked t l stays, .turnedAway t]) (d.resolve [t] false) := by
  obtain ⟨-, hkept, hwaiting⟩ := hs.sound.closed closed
  obtain ⟨ho₁, hd₁⟩ := ha.ask (l := l) stays fresh
  rw [hwaiting, hkept] at hd₁
  -- whoever asks at a closed queue is alone there
  have hpresent : (Desk.after (h ++ [.asked t l stays])).present = [t] := by
    rw [hd₁]
    rfl
  obtain ⟨ho₂, hd₂⟩ := ho₁.turnAll hpresent
  have heq : h ++ [.asked t l stays, .turnedAway t]
      = h ++ [.asked t l stays] ++ [t].map .turnedAway := by simp
  rw [heq]
  refine ⟨ho₂, ?_, ?_, ?_⟩
  · rw [hd₂]
    change _ = (⟨d.queue.waiting, d.queue.kept⟩ : Desk)
    rw [hwaiting, hkept]
  · change d.queue.kept ⊆ _
    rw [hkept]
    exact List.nil_subset _
  · rw [decisions_append, decisions_append, ← ha.arrivals, arrivals_resolve]
    exact congrArg (· ++ _) (List.append_nil _).symm

/-- Someone comes back to a kept place. -/
theorem Attended.cameBack (ha : Attended h d) {t : Nat} {l : Log} (request : (t, l) ∈ asked h)
    (kept : t ∈ d.queue.kept) :
    Attended (h ++ [.admitted t l]) ({ d with queue := { d.queue with
      items := d.queue.items ++ [l]
      kept := d.queue.kept.erase t } }.resolve [t] true) := by
  refine ⟨.snoc ha.orderly ⟨?_, request, Or.inl (ha.gone kept)⟩, ?_, ?_, ?_⟩
  · rw [ha.desk]
    exact kept
  · rw [Desk.after_snoc, ha.desk]
    rfl
  · rw [goers_append]
    exact fun t' ht' => List.mem_append_left _ (ha.gone (List.mem_of_mem_erase ht'))
  · rw [decisions_append, ← ha.arrivals]
    exact arrivals_resolve ..

/-- Someone gives up, and leaves the desk. -/
theorem Attended.withdraw (ha : Attended h d) {t : Nat} {l : Log} (request : (t, l) ∈ asked h) :
    Orderly (h ++ [.withdrawn t]) ∧ Desk.after (h ++ [.withdrawn t])
      = ⟨d.queue.waiting.filter fun w => w.ticket ≠ t, d.queue.kept.erase t⟩ := by
  refine ⟨.snoc ha.orderly (List.mem_map_of_mem request), ?_⟩
  rw [Desk.after_snoc, ha.desk]
  rfl

/-- Whoever has a place kept does not wait for one. -/
theorem Attended.filter_waiting (ha : Attended h d) {t : Nat} (kept : t ∈ d.queue.kept) :
    (d.queue.waiting.filter fun w => w.ticket ≠ t) = d.queue.waiting := by
  have hnodup := (List.nodup_append.mp ha.orderly.apart).2.1
  rw [ha.desk] at hnodup
  refine List.filter_eq_self.mpr fun w hw => decide_eq_true ?_
  rintro rfl
  exact (List.nodup_append.mp hnodup).2.2 _ kept _ (List.mem_map_of_mem hw) rfl

/-- **Every move is orderly.** -/
theorem Attended.step (hs : Stock C h d) (ha : Attended h d) (step : Step a h d seen d') :
    Attended (h ++ seen) d' := by
  cases step with
  | start stage isOpen => exact ha.still rfl rfl rfl (Or.inl rfl)
  | drop stage => exact ha.close hs rfl rfl (Or.inl rfl)
  | @offered t l fresh isOpen room =>
    refine ha.still rfl rfl rfl (Or.inr ⟨_, rfl, ⟨fresh, fun _ => ?_⟩, fun _ => rfl, rfl, rfl⟩)
    -- an offer is accepted only if there is room, and then nobody waits
    rw [ha.desk]
    by_contra hw
    exact absurd (hs.sound.full hw) (Nat.ne_of_lt room)
  | declined fresh refused =>
    exact ha.still rfl rfl rfl
      (Or.inr ⟨_, rfl, ⟨fresh, fun hr => absurd hr refused⟩, fun _ => rfl, rfl, rfl⟩)
  | enqueued there fresh isOpen room => exact ha.enqueued hs fresh room
  | @waited t l stays there fresh isOpen full =>
    obtain ⟨ho, hk⟩ := ha.ask (l := l) stays fresh
    refine ⟨ho, hk, ?_, ?_⟩
    · rw [goers_append]
      exact fun t' ht' => List.mem_append_left _ (ha.gone ht')
    · rw [decisions_append, ← ha.arrivals]
      exact (List.append_nil _).symm
  | turnedAway there fresh closed => exact ha.turnedAway hs fresh closed
  | cameBack request kept => exact ha.cameBack request kept
  | @released t l request kept =>
    obtain ⟨ho, hk⟩ := ha.withdraw request
    -- whoever gives up a kept place does not wait as well
    rw [ha.filter_waiting kept] at hk
    obtain ⟨ho', hk', hg', hd'⟩ :=
      Attended.served (q := { d.queue with kept := d.queue.kept.erase t })
      ho hk (by
        rw [goers_append]
        exact fun t' ht' => List.mem_append_left _ (ha.gone (List.mem_of_mem_erase ht')))
    rw [List.append_assoc] at ho' hk' hg' hd'
    refine ⟨ho', hk', hg', ?_⟩
    refine (arrivals_resolve ..).trans (Eq.trans ?_ hd'.symm)
    rw [decisions_append, ← ha.arrivals]
    exact congrArg (· ++ _) (List.append_nil _).symm
  | @withdrew t l request kept =>
    obtain ⟨ho, hk⟩ := ha.withdraw request
    rw [List.erase_of_not_mem kept] at hk
    refine ⟨ho, hk, ?_, ?_⟩
    · rw [goers_append]
      exact fun t' ht' => List.mem_append_left _ (ha.gone ht')
    · rw [decisions_append, ← ha.arrivals]
      exact (List.append_nil _).symm
  | missed => exact ha.still rfl rfl rfl (Or.inl rfl)
  | leave => exact ha.still rfl rfl rfl (Or.inl rfl)
  | cancel => exact ha.still rfl rfl rfl (Or.inl rfl)
  | wait t => exact ha.still rfl rfl rfl (Or.inl rfl)
  | turn turn => exact ha.turn turn
  | ending silent ending =>
    obtain ⟨d₁, rfl, hq, harr⟩ := ending.closes
    exact ha.close hs hq harr silent

/-- **Every run is orderly.** -/
theorem Run.attended {broker : β} {q : Queue Log} {ids : IdStream} (hq : Queue.new? C = some q)
    (run : Run a (.new broker q ids) h d) : Attended h d := by
  refine (run.keeps (P := fun h d => Stock C h d ∧ Attended h d) ?_ ?_).2
  · exact ⟨.begin hq, .begin hq⟩
  · exact fun ⟨hs, ha⟩ step => ⟨hs.step step, ha.step hs step⟩

/-- Nobody is turned away from a queue that has its receiver. -/
theorem Step.closed_of_turnedAway (step : Step a h d seen d') {t : Nat}
    (mem : .turnedAway t ∈ seen) : d'.queue.isOpen = false := by
  have served (q : Queue Log) : .turnedAway t ∉ q.served := by
    intro mem
    rcases Queue.mem_served mem with ⟨t', heq⟩ | ⟨t', l, heq⟩ <;> cases heq
  cases step with
  | drop stage => rfl
  | turnedAway there fresh closed => exact closed
  | released request kept =>
    rcases List.mem_cons.mp mem with heq | mem
    · cases heq
    · exact absurd mem (served _)
  | turn turn =>
    cases turn with
    | took stage items => exact absurd mem (served _)
    | _ => simp at mem
  | ending silent ending => exact ending.isOpen_eq_false
  | _ => simp at mem

/-- **Whoever was turned away** was turned away because the receiver is gone. -/
theorem Run.closed_of_refused {broker : β} {q : Queue Log} {ids : IdStream}
    (capacity : Queue.new? C = some q) (run : Run a (.new broker q ids) h d) {t : Nat}
    (refused : (t, false) ∈ decisions h) : d.queue.isOpen = false := by
  have both := run.keeps
    (P := fun h d => Stock C h d ∧ ((t, false) ∈ decisions h → d.queue.isOpen = false))
    ⟨.begin capacity, fun mem => absurd mem List.not_mem_nil⟩ ?_
  · exact both.2 refused
  · rintro h seen d d' ⟨stock, ih⟩ step
    refine ⟨stock.step step, fun mem => ?_⟩
    rw [decisions_append] at mem
    rcases List.mem_append.mp mem with before | now
    · exact (stock.closed (ih before) step).1
    · obtain ⟨s, hs, hd⟩ := List.mem_filterMap.mp now
      cases s with
      | turnedAway t' =>
        obtain ⟨rfl, -⟩ := Prod.mk.inj (Option.some.inj hd)
        exact step.closed_of_turnedAway hs
      | admitted t' l => exact absurd hd (by simp [decision?])
      | _ => exact absurd hd (by simp [decision?])

end Dispatcher

end AuditRelay
