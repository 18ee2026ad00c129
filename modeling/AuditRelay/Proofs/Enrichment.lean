import AuditRelay.Log.Enrich
import AuditRelay.Proofs.Wire
import Mathlib.Algebra.GroupWithZero.Nat

/-!
# Filling in a log twice, and again after reading it

A log is filled in with an id, an origin, a description and its outcome among the details. Which of
these depend on what was there before, and what comes of a log that is filled in again, is a matter
of three small laws:

* Of two texts put under one key the later one counts, and under different keys the order does not
  matter (`Detail.insert_insert`, `Detail.insert_comm`).
* A description is built part by part from the left; an empty part leaves no trace, and a space
  stands only where something comes before it (`joinNonempty_concat`).
* Filling in touches nothing that the description is made of (`describe_enrich`).

`Log.enrichment` puts them together. The outcome is the one field that is lost on the way through
the written form, so a log that was read has another description when it is filled in again: the one
without its last part (`Refilled`).
-/

namespace AuditRelay

/-! ### Details put under keys -/

namespace Detail

/-- Of two texts under one key the later one counts. -/
theorem insert_insert (d : Detail) (k v w : String) : (d.insert k v).insert k w = d.insert k w := by
  apply ext_get?
  intro key
  rw [get?_insert, get?_insert, get?_insert]
  by_cases same : key = k
  · rw [if_pos same, if_pos same]
  · rw [if_neg same, if_neg same, if_neg same]

/-- Texts under different keys can be put there in any order. -/
theorem insert_comm (d : Detail) {k l : String} (other : k ≠ l) (v w : String) :
    (d.insert k v).insert l w = (d.insert l w).insert k v := by
  apply ext_get?
  intro key
  rw [get?_insert, get?_insert, get?_insert, get?_insert]
  by_cases first : key = k
  · -- the key is not the other one
    have second : ¬key = l := fun h => other (first.symm.trans h)
    rw [if_neg second, if_pos first, if_pos first]
  · rw [if_neg first, if_neg first]

end Detail

/-! ### Texts joined by spaces -/

namespace Log

/-- Appends a part to a text: not at all if it is empty, and with a space between if something comes
before it. -/
def appendPart (text part : String) : String :=
  if part = "" then text else if text = "" then part else text ++ " " ++ part

/-- The parts that show. -/
def shown (parts : List String) : List String := parts.filter (· ≠ "")

theorem joinNonempty_eq (parts : List String) :
    joinNonempty parts = " ".intercalate (shown parts) := rfl

/-- Nothing is joined only if all parts are empty. -/
theorem joinNonempty_eq_empty_iff {parts : List String} :
    joinNonempty parts = "" ↔ shown parts = [] := by
  rw [joinNonempty_eq]
  constructor
  · intro empty
    cases hshown : shown parts with
    | nil => rfl
    | cons p rest =>
      -- the first part would show
      have ne : p ≠ "" := by
        have hp : p ∈ shown parts := hshown ▸ List.mem_cons_self
        simpa [shown] using (List.mem_filter.mp hp).2
      rw [hshown] at empty
      cases rest with
      | nil =>
        rw [String.intercalate_singleton] at empty
        exact absurd empty ne
      | cons q rest =>
        rw [String.intercalate_cons_cons, String.append_eq_empty_iff,
          String.append_eq_empty_iff] at empty
        exact absurd empty.1.1 ne
  · intro none
    rw [none]
    exact String.intercalate_nil

/-- One part more is appended to the others. -/
theorem joinNonempty_concat (parts : List String) (part : String) :
    joinNonempty (parts ++ [part]) = appendPart (joinNonempty parts) part := by
  have hshown : shown (parts ++ [part]) = shown parts ++ shown [part] := List.filter_append ..
  rw [joinNonempty_eq, hshown, appendPart]
  by_cases empty : part = ""
  · have none : shown [part] = [] := by simp [shown, empty]
    rw [none, List.append_nil, if_pos empty]
    rfl
  · have one : shown [part] = [part] := by simp [shown, empty]
    rw [one, if_neg empty]
    by_cases first : shown parts = []
    · rw [if_pos (joinNonempty_eq_empty_iff.mpr first), first]
      exact String.intercalate_singleton
    · rw [if_neg (mt joinNonempty_eq_empty_iff.mp first),
        String.intercalate_append_of_ne_nil first (by simp), String.intercalate_singleton]
      rfl

/-- **Joining appends the parts one by one.** -/
theorem joinNonempty_eq_foldl (parts : List String) :
    joinNonempty parts = parts.foldl appendPart "" := by
  -- by induction on the parts, the last one apart
  induction parts using List.reverseRecOn with
  | nil => rfl
  | append_singleton parts part ih =>
    rw [joinNonempty_concat, ih, List.foldl_append]
    rfl

/-- A way to measure texts: what is put together has both measures, and a space is one. -/
structure Gauge (size : String → Nat) : Prop where
  append : ∀ s t, size (s ++ t) = size s + size t
  space : size " " = 1

theorem gauge_length : Gauge String.length := ⟨String.length_append, rfl⟩

theorem gauge_utf8ByteSize : Gauge String.utf8ByteSize :=
  ⟨fun _ _ => String.utf8ByteSize_append, rfl⟩

/-- The size of texts with spaces between them. -/
theorem Gauge.intercalate {size : String → Nat} (gauge : Gauge size) (t : String)
    (ts : List String) :
    size (" ".intercalate (t :: ts)) = ((t :: ts).map size).sum + ts.length := by
  induction ts generalizing t with
  | nil => simp
  | cons u us ih =>
    calc size (" ".intercalate (t :: u :: us))
        = size t + size " " + size (" ".intercalate (u :: us)) := by
          rw [String.intercalate_cons_cons, gauge.append, gauge.append]
      _ = size t + 1 + (((u :: us).map size).sum + us.length) := by rw [gauge.space, ih]
      _ = ((t :: u :: us).map size).sum + (u :: us).length := by
          rw [List.map_cons (l := u :: us), List.sum_cons, List.length_cons]
          omega

/-- **The size of a description**: that of its parts, and a space between any two that show. -/
theorem Gauge.joinNonempty {size : String → Nat} (gauge : Gauge size) {parts : List String}
    (some : shown parts ≠ []) :
    size (joinNonempty parts) = ((shown parts).map size).sum + ((shown parts).length - 1) := by
  rw [joinNonempty_eq]
  cases hshown : shown parts with
  | nil => exact absurd hshown some
  | cons t ts => exact gauge.intercalate t ts

/-- **Texts that are joined.** -/
structure Joined (parts : List String) : Prop where
  /-- The parts are appended one by one. -/
  built : joinNonempty parts = parts.foldl appendPart ""
  /-- If `n` of them show, there are `n - 1` spaces more than in them, -/
  length : shown parts ≠ [] → (joinNonempty parts).length
    = ((shown parts).map String.length).sum + ((shown parts).length - 1)
  /-- and `n - 1` bytes more. -/
  bytes : shown parts ≠ [] → (joinNonempty parts).utf8ByteSize
    = ((shown parts).map String.utf8ByteSize).sum + ((shown parts).length - 1)

theorem joined (parts : List String) : Joined parts where
  built := joinNonempty_eq_foldl parts
  length := gauge_length.joinNonempty
  bytes := gauge_utf8ByteSize.joinNonempty

/-- A part of spaces shows; an empty one leaves nothing, not even a space. -/
example : joinNonempty ["delete", "", " ", "failed"] = "delete   failed" := by decide

/-! ### Filling in -/

variable (l : Log)

/-- What a log is about, its outcome apart. -/
def subjectParts : List String := [l.operation, l.object.kind, l.object.name]

theorem describe_eq :
    l.describe = joinNonempty (l.subjectParts ++ [Status.nameOrEmpty l.status]) := rfl

/-- The description depends on four fields, which filling in does not touch. -/
theorem describe_enrich (p : Origin) (i : String) : (l.enrich p i).describe = l.describe := rfl

/-- What is found among the details of a log that was filled in. -/
theorem get?_enrich (p : Origin) (i k : String) : (l.enrich p i).detail.get? k
    = if k = statusKey then some (Status.nameOrEmpty l.status) else l.detail.get? k :=
  Detail.get?_insert ..

/-- **Filling in a second time** leaves nothing of the first time. -/
theorem enrich_enrich (p q : Origin) (i j : String) :
    (l.enrich p i).enrich q j = l.enrich q j := by
  -- the description is made of the same fields, and the outcome is put under the same key
  have details : (l.enrich p i).detail.insert statusKey (Status.nameOrEmpty l.status)
      = l.detail.insert statusKey (Status.nameOrEmpty l.status) :=
    Detail.insert_insert ..
  calc (l.enrich p i).enrich q j
      = { l with
          id := j
          origin := q
          description := l.describe
          detail := (l.enrich p i).detail.insert statusKey (Status.nameOrEmpty l.status) } := rfl
    _ = l.enrich q j := by rw [details]; rfl

/-- A detail may be added before or after a log is filled in, -/
theorem enrich_withDetail {k : String} (other : k ≠ statusKey) (v : String) (p : Origin)
    (i : String) : (l.withDetail k v).enrich p i = (l.enrich p i).withDetail k v := by
  have details : (l.detail.insert k v).insert statusKey (Status.nameOrEmpty l.status)
      = (l.detail.insert statusKey (Status.nameOrEmpty l.status)).insert k v :=
    Detail.insert_comm _ other ..
  calc (l.withDetail k v).enrich p i
      = { l.enrich p i with
          detail := (l.detail.insert k v).insert statusKey (Status.nameOrEmpty l.status) } := rfl
    _ = (l.enrich p i).withDetail k v := by rw [details]; rfl

/-- but what a caller puts under the key of the outcome is overwritten. -/
theorem enrich_withDetail_status (v : String) (p : Origin) (i : String) :
    (l.withDetail statusKey v).enrich p i = l.enrich p i := by
  have details : (l.detail.insert statusKey v).insert statusKey (Status.nameOrEmpty l.status)
      = l.detail.insert statusKey (Status.nameOrEmpty l.status) :=
    Detail.insert_insert ..
  calc (l.withDetail statusKey v).enrich p i
      = { l.enrich p i with
          detail := (l.detail.insert statusKey v).insert statusKey
            (Status.nameOrEmpty l.status) } := rfl
    _ = l.enrich p i := by rw [details]; rfl

/-- **What filling in does to a log.** -/
structure Filled : Prop where
  /-- It touches the id, the origin, the description and the details, -/
  frame : ∀ p i, l.enrich p i = { l with
    id := i
    origin := p
    description := (l.enrich p i).description
    detail := (l.enrich p i).detail }
  /-- and of the details only the outcome. -/
  outcome : ∀ p i, (l.enrich p i).detail.get? statusKey = some (Status.nameOrEmpty l.status)
  details : ∀ p i, ∀ k ≠ statusKey, (l.enrich p i).detail.get? k = l.detail.get? k
  /-- The second time counts. -/
  twice : ∀ p q i j, (l.enrich p i).enrich q j = l.enrich q j
  withDetail : ∀ p i v, ∀ k ≠ statusKey,
    (l.withDetail k v).enrich p i = (l.enrich p i).withDetail k v
  withOutcome : ∀ p i v, (l.withDetail statusKey v).enrich p i = l.enrich p i

theorem filled : l.Filled where
  frame _ _ := rfl
  outcome p i := by rw [get?_enrich, if_pos rfl]
  details p i k other := by rw [get?_enrich, if_neg other]
  twice := l.enrich_enrich
  withDetail p i v _ other := l.enrich_withDetail other v p i
  withOutcome p i v := l.enrich_withDetail_status v p i

/-- **What the description of a log says.** -/
structure Described : Prop where
  /-- It depends on four fields. -/
  depends : ∀ l' : Log, l'.operation = l.operation → l'.object.kind = l.object.kind →
    l'.object.name = l.object.name → l'.status = l.status → l'.describe = l.describe
  built : l.describe
    = [l.operation, l.object.kind, l.object.name, Status.nameOrEmpty l.status].foldl appendPart ""
  /-- Filling in does not change it, and stores it. -/
  enrich : ∀ p i, (l.enrich p i).describe = l.describe
  stored : ∀ p i, (l.enrich p i).description = (l.enrich p i).describe

theorem described : l.Described where
  depends l' operation kind name status := by
    rw [describe_eq, describe_eq, subjectParts, subjectParts, operation, kind, name, status]
  built := joinNonempty_eq_foldl _
  enrich := l.describe_enrich
  stored _ _ := rfl

/-! ### Filling in what was read -/

/-- **A log that was filled in, written, read and filled in again.** -/
structure Refilled (p q : Origin) (i j : String) (back : Log) : Prop where
  /-- Reading succeeds, in whatever order the details were written, and loses the outcome only. -/
  read : ∀ order, Log.parse (Mark.ofString ((l.enrich p i).write order)) = .ok back
  lost : back = { l.enrich p i with status := none }
  /-- Its description ended with the outcome, -/
  before : back.description
    = appendPart (joinNonempty l.subjectParts) (Status.nameOrEmpty l.status)
  /-- which is missing now, and the outcome among the details is empty. Apart from the id and the
  origin nothing else is touched, -/
  again : back.enrich q j = { back with
    id := j
    origin := q
    description := joinNonempty l.subjectParts
    detail := (back.enrich q j).detail }
  outcome : (back.enrich q j).detail.get? statusKey = some ""
  details : ∀ k ≠ statusKey, (back.enrich q j).detail.get? k = back.detail.get? k
  /-- and the origin is not touched either if it is the same. -/
  origin : q = p → (back.enrich q j).origin = back.origin

/-- A log without an outcome is described by the rest. -/
theorem describe_of_unknown {l : Log} (unknown : l.status = none) :
    l.describe = joinNonempty l.subjectParts := by
  rw [describe_eq, unknown, joinNonempty_concat]
  -- the name of an outcome that is not known is empty
  exact if_pos rfl

theorem exists_refilled (p q : Origin) (i j : String) : ∃ back, l.Refilled p q i j back := by
  let back : Log := { l.enrich p i with status := none }
  have description : back.describe = joinNonempty l.subjectParts := describe_of_unknown rfl
  refine ⟨back, {
    read := fun order => (l.enrich p i).parse_write order
    lost := rfl
    before := ?_
    again := ?_
    outcome := back.filled.outcome q j
    details := back.filled.details q j
    origin := fun same => same }⟩
  · show l.describe = _
    rw [describe_eq, joinNonempty_concat]
  · rw [← description]
    exact back.filled.frame q j

/-- **The laws of filling in.** Whatever a log holds, filling it in touches the id, the origin, the
description and the outcome among the details, the second time like the first; details that are
added under other keys stay. The description joins four texts, as any texts are joined. A log that
was read back is filled in as one whose outcome is not known. -/
theorem enrichment : l.Filled ∧ l.Described ∧ (∀ parts, Joined parts) ∧
    ∀ p q i j, ∃ back, l.Refilled p q i j back :=
  ⟨l.filled, l.described, joined, l.exists_refilled⟩

end Log

end AuditRelay
