import AuditRelay.Proofs.Backpressure
import AuditRelay.Proofs.Payload

/-!
# Messages that explain themselves

The dispatcher fills in what a caller does not give: the id, the place where the log came from, a
description, and the outcome among the details. The outcome is not written in a field of its own, so
whoever reads a message has to find it among the details, and everything else has to agree with what
is found there.

* `Log.enriched_consistent` says so of a log that was filled in, whatever keys and texts the caller
  has used: `Consistent` speaks of the log that is read from the message.
* `Log.Built` are the logs as the recorder builds them. For these the outcome follows from the level
  that is read and from the outcome that was asked for.
* `Dispatcher.messages_consistent` is about every message of every run.
-/

namespace AuditRelay

open History

/-! ### Logs that producers bring -/

namespace History

/-- A log that a producer brings, whatever becomes of it, with its ticket. -/
def brought? : Sight → Option (Nat × Log)
  | .offered t l _ => some (t, l)
  | .asked t l _ => some (t, l)
  | _ => none

/-- The logs that producers bring, in this order. -/
def brought (h : List Sight) : List (Nat × Log) := h.filterMap brought?

theorem brought_append (h h' : List Sight) : brought (h ++ h') = brought h ++ brought h' :=
  List.filterMap_append ..

theorem asked_subset_brought (h : List Sight) : asked h ⊆ brought h := by
  intro e he
  obtain ⟨s, hs, hr⟩ := List.mem_filterMap.mp he
  refine List.mem_filterMap.mpr ⟨s, hs, ?_⟩
  cases s with
  | asked t l stays => exact hr
  | _ => exact absurd hr (by simp [request?])

/-- What the queue accepts is what was brought, and nobody has changed it. -/
theorem accepted_subset_brought {h : List Sight} (o : Orderly h) : accepted h ⊆ brought h := by
  induction o with
  | nil => exact List.nil_subset _
  | @snoc h s before allowed ih =>
    intro e he
    rw [accepted_append] at he
    rw [brought_append]
    rcases List.mem_append.mp he with hold | hnew
    · exact List.mem_append_left _ (ih hold)
    · cases s with
      | offered t l r =>
        cases r with
        | accepted => exact List.mem_append_right _ hnew
        | full => exact absurd hnew List.not_mem_nil
        | closed => exact absurd hnew List.not_mem_nil
      -- whoever is let in later has asked before, with the same log
      | admitted t l =>
        obtain rfl := List.mem_singleton.mp hnew
        exact List.mem_append_left _ (asked_subset_brought h allowed.2.1)
      | _ => exact absurd hnew List.not_mem_nil

end History

/-! ### Logs that are built -/

namespace Log

/-- **Logs as a recorder builds them**, for the outcome that is asked for, if one is. Nobody is
asked about the outcome of an error. -/
inductive Built : Option Status → Log → Prop where
  | new (now : Int64) (kind : LogKind) (level : Level) (operation : String) (operator : Operator)
      (object : Object) (asked : Option Status) (detail : Detail) :
      Built asked (new now kind level operation operator object asked detail)
  | info (now : Int64) (kind : LogKind) (operation : String) (operator : Operator)
      (object : Object) (detail : String) :
      Built (some .success) (info now kind operation operator object detail)
  | warn (now : Int64) (kind : LogKind) (operation : String) (operator : Operator)
      (object : Object) (status : Status) (detail : String) :
      Built (some status) (warn now kind operation operator object status detail)
  | warnWithError (now : Int64) (kind : LogKind) (operation : String) (operator : Operator)
      (object : Object) (error : String) :
      Built none (warnWithError now kind operation operator object error)
  | withDetail {asked : Option Status} {l : Log} (built : Built asked l) (key value : String) :
      Built asked (l.withDetail key value)

/-- The text for the outcome of a log of a level: what is merely information has succeeded, whatever
was asked for, and a warning without an outcome has failed. -/
def outcomeText : Level → Option Status → String
  | .info, _ => "success"
  | .warn, some s => s.name
  | .warn, none => "failed"

/-- The level decides about the outcome. -/
theorem Built.status_eq {asked : Option Status} {l : Log} (built : Built asked l) :
    Status.nameOrEmpty l.status = outcomeText l.level asked := by
  induction built with
  | new now kind level operation operator object asked detail =>
    cases level with
    | info => rfl
    | warn => cases asked <;> rfl
  | info => rfl
  | warn => rfl
  | warnWithError => rfl
  | withDetail built key value ih => exact ih

end Log

/-! ### What is read from a message -/

/-- **A message agrees with itself**: `w` is the log that is read from the message `m`, which was
made of the log `l`. -/
structure Consistent (s : Settings) (l : Log) (m : Message) (w : Log) : Prop where
  read : m.log? = some w
  id_eq : w.id = m.id
  id_ne : w.id ≠ ""
  origin : w.origin = s.origin
  /-- The outcome is found among the details, also if the caller has used its key. -/
  status : w.detail.get? Log.statusKey = some (Status.nameOrEmpty l.status)
  /-- The description follows from what is read and from nothing else. -/
  description : ∀ text, w.detail.get? Log.statusKey = some text →
    w.description = " ".intercalate
      ([w.operation, w.object.kind, w.object.name, text].filter (· ≠ ""))
  /-- Every other field, and every other detail, is what the caller has given. -/
  fields : w.kind = l.kind ∧ w.level = l.level ∧ w.operation = l.operation ∧ w.time = l.time ∧
    w.operator = l.operator ∧ w.object = l.object
  details : ∀ key, key ≠ Log.statusKey → w.detail.get? key = l.detail.get? key
  /-- What the outcome of a log is that a recorder has built. -/
  built : ∀ asked, l.Built asked →
    w.detail.get? Log.statusKey = some (Log.outcomeText w.level asked)

/-- **The message of a log that was filled in** agrees with itself. -/
theorem Log.enriched_consistent (s : Settings) (draw : Nat) (order : Detail.Order) (l : Log)
    {id : String} (ne : id ≠ "") :
    Consistent s l (Message.ofLog s draw (l.enrich s.origin id) order)
      { l.enrich s.origin id with status := none } := by
  have status : (l.enrich s.origin id).detail.get? statusKey
      = some (Status.nameOrEmpty l.status) := by
    rw [enrich, Detail.get?_insert, if_pos rfl]
  refine ⟨Message.log?_ofLog .., rfl, ne, rfl, status, ?_, ⟨rfl, rfl, rfl, rfl, rfl, rfl⟩, ?_, ?_⟩
  · intro text htext
    -- the text that is found is the one from which the description was made
    have same : text = Status.nameOrEmpty l.status := Option.some.inj (htext.symm.trans status)
    rw [same]
    rfl
  · intro key other
    show (l.detail.insert statusKey (Status.nameOrEmpty l.status)).get? key = l.detail.get? key
    rw [Detail.get?_insert, if_neg other]
  · intro asked built
    show (l.enrich s.origin id).detail.get? statusKey = some (outcomeText l.level asked)
    rw [status, built.status_eq]

theorem Id.text_ne_empty (n : Nat) : Id.text n ≠ "" := by
  intro empty
  have hlength := Id.length_text n
  rw [empty] at hlength
  exact absurd hlength (by decide)

theorem IdStream.counted_ne_empty (i : Nat) : IdStream.counted.nth i ≠ "" :=
  Id.text_ne_empty _

namespace Dispatcher

variable {β : Type} {a : Assignment β} {C : Nat} {ids : IdStream} {h : List Sight}
  {d : Dispatcher β}

/-- **Every message that is handed to the broker agrees with itself**, if no id is empty. The
messages that the worker has sent are those of the calls, and each of them was made of a log that a
producer has brought. -/
theorem messages_consistent {broker : β} {q : Queue Log} (capacity : Queue.new? C = some q)
    (nonempty : ∀ i, ids.nth i ≠ "") (run : Run a (.new broker q ids) h d) :
    d.worker.sends.reverse.map (·.2) = (calls h).map (·.message) ∧
      ∀ c ∈ calls h, ∃ t l w, (t, l) ∈ brought h ∧ (t, l) ∈ accepted h ∧
        Consistent a.settings l c.message w := by
  have ho : Orderly h := (run.attended capacity).orderly
  obtain ⟨done, rest, hp⟩ := run.progress capacity
  refine ⟨hp.sends, ?_⟩
  intro c hc
  obtain ⟨i, t, l, hentry, hmessage⟩ := exists_of_mem_messages (hp.mem_messages hc)
  have haccepted : (t, l) ∈ accepted h := List.mem_of_getElem? hentry
  rw [hmessage]
  exact ⟨t, l, _, accepted_subset_brought ho haccepted, haccepted,
    Log.enriched_consistent a.settings (a.around.chance i) (a.around.order i) l (nonempty i)⟩

theorem rehearsal_consistent :
    (calls Rehearsal.outcome.1).length = 3 ∧
      Rehearsal.outcome.2.worker.sends.reverse.map (·.2)
        = (calls Rehearsal.outcome.1).map (·.message) ∧
      ∀ c ∈ calls Rehearsal.outcome.1, ∃ t l w, (t, l) ∈ brought Rehearsal.outcome.1 ∧
        (t, l) ∈ accepted Rehearsal.outcome.1 ∧
        Consistent Rehearsal.assignment.settings l c.message w :=
  ⟨rfl, messages_consistent Rehearsal.capacity IdStream.counted_ne_empty Rehearsal.run⟩

end Dispatcher

/-- A caller that has used the key of the outcome is overruled. -/
example : (((Log.warn 0 .operation "stop" default default .failed "").withDetail "status"
    "fine").enrich default "1").detail.get? "status" = some "failed" := by
  decide

end AuditRelay
