import AuditRelay.Proofs.Json.Numbers
import AuditRelay.Proofs.Json.Records
import AuditRelay.Proofs.Json.Written
import AuditRelay.Log.Wire
import Mathlib.Data.List.Induction

/-!
# The texts of a log

Each part of a log is a record, so its texts are known once those of its fields are (`Form`), and so
are the texts that are flawed, in the part itself or in a part of it (`Flawed`). Every text of a part
is taken, every flawed one is refused, and what is written of a part is one of its texts. In
particular a log is read back as it was written, but for its outcome (`Log.parse_write`).

Details are a table of texts in which a key may occur more than once; the last text under a key
counts (`Detail.get?_ofList`). So it does not matter in which order details are written, since no
key is written twice (`Detail.last?_arrange`).
-/

namespace AuditRelay

open Json

/-! ### Objects -/

/-- The values of the fields of an object. -/
def Object.values (o : Object) : Object.record.Full
  | .kind => o.kind
  | .id => o.id
  | .name => o.name

/-- The texts of the fields of an object: all of them are strings. -/
def Object.Texts : Object.record.Texts := fun _ => StringText

/-- **The texts of an object.** -/
def Object.Form (o : Object) (t : Input) : Prop := Object.record.Form Object.Texts o.values t

/-- The flawed texts of objects. -/
def Object.Flawed : Input → Prop :=
  Object.record.Flawed Object.Texts fun _ _ => False

theorem Object.takes_text (i : Object.Field) (a : String) (t : Input) (text : Object.Texts i a t) :
    Takes (Object.record.read i) t a :=
  takes_string _ text

theorem Object.takes_form {o : Object} {t : Input} (form : o.Form t) : Takes Object.read t o :=
  (Record.takes_form (by decide) Object.takes_text form).build _

theorem Object.refuses_flawed {t : Input} (flawed : Object.Flawed t) :
    Refuses Object.read t :=
  (Record.refuses_flawed (by decide) Object.takes_text (fun _ _ flaw => flaw.elim) flawed).build _

theorem Object.form_write (o : Object) : o.Form (Mark.ofString o.write) := by
  refine Record.form_write (by decide) fun i => ?_
  cases i with
  | kind => exact stringText_write _
  | id => exact stringText_write _
  | name => exact stringText_write _

/-! ### Agents -/

/-- The values of the fields of an agent. -/
def Agent.values (a : Agent) : Agent.record.Full
  | .kind => a.kind
  | .ip => a.ip
  | .mac => a.mac

/-- The texts of the fields of an agent: all of them are strings. -/
def Agent.Texts : Agent.record.Texts := fun _ => StringText

/-- **The texts of an agent.** -/
def Agent.Form (a : Agent) (t : Input) : Prop := Agent.record.Form Agent.Texts a.values t

/-- The flawed texts of agents. -/
def Agent.Flawed : Input → Prop :=
  Agent.record.Flawed Agent.Texts fun _ _ => False

theorem Agent.takes_text (i : Agent.Field) (a : String) (t : Input) (text : Agent.Texts i a t) :
    Takes (Agent.record.read i) t a :=
  takes_string _ text

theorem Agent.takes_form {a : Agent} {t : Input} (form : a.Form t) : Takes Agent.read t a :=
  (Record.takes_form (by decide) Agent.takes_text form).build _

theorem Agent.refuses_flawed {t : Input} (flawed : Agent.Flawed t) :
    Refuses Agent.read t :=
  (Record.refuses_flawed (by decide) Agent.takes_text (fun _ _ flaw => flaw.elim) flawed).build _

theorem Agent.form_write (a : Agent) : a.Form (Mark.ofString a.write) := by
  refine Record.form_write (by decide) fun i => ?_
  cases i with
  | kind => exact stringText_write _
  | ip => exact stringText_write _
  | mac => exact stringText_write _

/-! ### Operators -/

/-- The values of the fields of an operator. -/
def Operator.values (o : Operator) : Operator.record.Full
  | .kind => o.kind
  | .id => o.id
  | .name => o.name
  | .agent => o.agent

/-- The texts of the fields of an operator. -/
def Operator.Texts : Operator.record.Texts
  | .kind => StringText
  | .id => StringText
  | .name => StringText
  | .agent => Agent.Form

/-- **The texts of an operator.** -/
def Operator.Form (o : Operator) (t : Input) : Prop :=
  Operator.record.Form Operator.Texts o.values t

/-- The flawed texts of operators; the flaw may be in the agent. -/
def Operator.Flawed : Input → Prop :=
  Operator.record.Flawed Operator.Texts fun
    | .agent => Agent.Flawed
    | _ => fun _ => False

theorem Operator.takes_text (i : Operator.Field) (a : Operator.record.type i) (t : Input)
    (text : Operator.Texts i a t) : Takes (Operator.record.read i) t a := by
  cases i with
  | kind => exact takes_string _ text
  | id => exact takes_string _ text
  | name => exact takes_string _ text
  | agent => exact Agent.takes_form text

theorem Operator.takes_form {o : Operator} {t : Input} (form : o.Form t) :
    Takes Operator.read t o :=
  (Record.takes_form (by decide) Operator.takes_text form).build _

theorem Operator.refuses_flawed {t : Input} (flawed : Operator.Flawed t) :
    Refuses Operator.read t := by
  refine (Record.refuses_flawed (by decide) Operator.takes_text (fun i t flaw => ?_) flawed).build _
  cases i with
  | agent => exact Agent.refuses_flawed flaw
  | _ => exact flaw.elim

theorem Operator.form_write (o : Operator) : o.Form (Mark.ofString o.write) := by
  refine Record.form_write (by decide) fun i => ?_
  cases i with
  | kind => exact stringText_write _
  | id => exact stringText_write _
  | name =>
    -- an empty name is left out, and an absent name is empty
    by_cases empty : o.name = ""
    · have left : Operator.record.absent .name = some (o.values .name) := congrArg some empty.symm
      simp only [if_pos empty]
      exact left
    · simp only [if_neg empty]
      exact stringText_write _
  | agent => exact o.agent.form_write

/-! ### Origins -/

/-- The value of the field of a service. -/
def Service.values (s : Service) : Service.record.Full
  | .name => s.name

/-- The texts of the field of a service. -/
def Service.Texts : Service.record.Texts := fun _ => StringText

/-- **The texts of a service.** -/
def Service.Form (s : Service) (t : Input) : Prop := Service.record.Form Service.Texts s.values t

/-- The flawed texts of services. -/
def Service.Flawed : Input → Prop :=
  Service.record.Flawed Service.Texts fun _ _ => False

theorem Service.takes_text (i : Service.Field) (a : String) (t : Input)
    (text : Service.Texts i a t) : Takes (Service.record.read i) t a :=
  takes_string _ text

theorem Service.takes_form {s : Service} {t : Input} (form : s.Form t) : Takes Service.read t s :=
  (Record.takes_form (by decide) Service.takes_text form).build _

theorem Service.refuses_flawed {t : Input} (flawed : Service.Flawed t) :
    Refuses Service.read t :=
  (Record.refuses_flawed (by decide) Service.takes_text (fun _ _ flaw => flaw.elim) flawed).build _

theorem Service.form_write (s : Service) : s.Form (Mark.ofString s.write) := by
  refine Record.form_write (by decide) fun i => ?_
  cases i with
  | name => exact stringText_write _

/-- The values of the fields of an origin. -/
def Origin.values (o : Origin) : Origin.record.Full
  | .package => o.package
  | .service => o.service

/-- The texts of the fields of an origin. -/
def Origin.Texts : Origin.record.Texts
  | .package => StringText
  | .service => Service.Form

/-- **The texts of an origin.** -/
def Origin.Form (o : Origin) (t : Input) : Prop := Origin.record.Form Origin.Texts o.values t

/-- The flawed texts of origins; the flaw may be in the service. -/
def Origin.Flawed : Input → Prop :=
  Origin.record.Flawed Origin.Texts fun
    | .package => fun _ => False
    | .service => Service.Flawed

theorem Origin.takes_text (i : Origin.Field) (a : Origin.record.type i) (t : Input)
    (text : Origin.Texts i a t) : Takes (Origin.record.read i) t a := by
  cases i with
  | package => exact takes_string _ text
  | service => exact Service.takes_form text

theorem Origin.takes_form {o : Origin} {t : Input} (form : o.Form t) : Takes Origin.read t o :=
  (Record.takes_form (by decide) Origin.takes_text form).build _

theorem Origin.refuses_flawed {t : Input} (flawed : Origin.Flawed t) :
    Refuses Origin.read t := by
  refine (Record.refuses_flawed (by decide) Origin.takes_text (fun i t flaw => ?_) flawed).build _
  cases i with
  | package => exact flaw.elim
  | service => exact Service.refuses_flawed flaw

theorem Origin.form_write (o : Origin) : o.Form (Mark.ofString o.write) := by
  refine Record.form_write (by decide) fun i => ?_
  cases i with
  | package => exact stringText_write _
  | service => exact o.service.form_write

/-! ### Details -/

namespace Detail

/-- The last text under a key among entries. -/
def last? (es : List (String × String)) (k : String) : Option String :=
  (es.reverse.find? (·.1 == k)).map (·.2)

theorem last?_concat (es : List (String × String)) (e : String × String) (k : String) :
    last? (es ++ [e]) k = if k = e.1 then some e.2 else last? es k := by
  rw [last?, List.reverse_append, List.reverse_singleton, List.singleton_append, List.find?_cons]
  by_cases same : k = e.1
  · simp [same]
  · have other : (e.1 == k) = false := beq_false_of_ne (Ne.symm same)
    rw [other, if_neg same]
    rfl

/-- **Of several entries with one key the last counts.** -/
theorem get?_ofList (es : List (String × String)) (k : String) :
    (ofList es).get? k = last? es k := by
  induction es using List.reverseRecOn with
  | nil => rfl
  | append_singleton es e ih =>
    rw [last?_concat, ofList, List.foldl_append, List.foldl_cons, List.foldl_nil, get?_insert]
    exact congrArg (if k = e.1 then some e.2 else ·) ih

/-- Below the first of some sorted keys there is none. -/
theorem find?_below {es : List (String × String)} {k : String} (below : ∀ e ∈ es, k < e.1) :
    es.find? (·.1 == k) = none := by
  refine List.find?_eq_none.mpr fun e he same => ?_
  have lower := below e he
  rw [beq_iff_eq.mp same] at lower
  exact String.lt_irrefl k lower

/-- Entries in ascending order are known by what is under each key. -/
theorem entries_ext {es es' : List (String × String)} (sorted : Sorted es) (sorted' : Sorted es')
    (same : ∀ k, (es.find? (·.1 == k)).map (·.2) = (es'.find? (·.1 == k)).map (·.2)) : es = es' := by
  induction es generalizing es' with
  | nil =>
    cases es' with
    | nil => rfl
    | cons e' es' => simpa using same e'.1
  | cons e es ih =>
    cases es' with
    | nil => simpa using same e.1
    | cons e' es' =>
      obtain ⟨least, sorted⟩ := List.pairwise_cons.mp sorted
      obtain ⟨least', sorted'⟩ := List.pairwise_cons.mp sorted'
      -- the first keys are the least ones, so they are the same
      have key : e.1 = e'.1 := by
        refine String.le_antisymm (String.not_lt.mp fun lower => ?_)
          (String.not_lt.mp fun lower => ?_)
        · have none_there : (e :: es).find? (·.1 == e'.1) = none := find?_below fun x hx => by
            rcases List.mem_cons.mp hx with rfl | hx
            · exact lower
            · exact String.lt_trans lower (least x hx)
          have h := same e'.1
          rw [none_there, List.find?_cons_of_pos (by simp)] at h
          cases h
        · have none_there : (e' :: es').find? (·.1 == e.1) = none := find?_below fun x hx => by
            rcases List.mem_cons.mp hx with rfl | hx
            · exact lower
            · exact String.lt_trans lower (least' x hx)
          have h := same e.1
          rw [none_there, List.find?_cons_of_pos (by simp)] at h
          cases h
      have value : e.2 = e'.2 := by
        have h := same e.1
        rw [List.find?_cons_of_pos (by simp), List.find?_cons_of_pos (by simp [key])] at h
        exact Option.some.inj h
      have rest : es = es' := by
        refine ih sorted sorted' fun k => ?_
        by_cases first : e.1 = k
        · rw [find?_below (first ▸ least), find?_below (first ▸ key ▸ least')]
        · have h := same k
          rwa [List.find?_cons_of_neg (by simpa using first),
            List.find?_cons_of_neg (by rw [← key]; simpa using first)] at h
      rw [rest, Prod.ext key value]

theorem ext_get? {d d' : Detail} (same : ∀ k, d.get? k = d'.get? k) : d = d' := by
  have entries := entries_ext d.sorted d'.sorted same
  cases d
  cases d'
  cases entries
  rfl

/-- **The texts of details**: tables in which the last text under each key is the one that the
details have there. -/
def Form (d : Detail) (t : Input) : Prop :=
  ∃ es, TableText es t ∧ ∀ k, d.get? k = last? es k

theorem takes_form {d : Detail} {t : Input} (form : d.Form t) : Takes Detail.read t d := by
  obtain ⟨es, table, values⟩ := form
  have made : ofList es = d := ext_get? fun k => (get?_ofList es k).trans (values k).symm
  have takes := (takes_textMap table).map ofList
  rwa [made] at takes

/-- Where no key occurs twice, what is found under a key is its entry. -/
theorem find?_key {es : List (String × String)} (distinct : es.Pairwise (·.1 ≠ ·.1))
    {k v : String} : (es.find? (·.1 == k)).map (·.2) = some v ↔ (k, v) ∈ es := by
  induction es with
  | nil => simp
  | cons e es ih =>
    obtain ⟨others, rest⟩ := List.pairwise_cons.mp distinct
    obtain ⟨key, value⟩ := e
    by_cases first : key = k
    · -- this is the only entry with the key
      subst first
      have unique : (key, v) ∉ es := fun mem => others _ mem rfl
      rw [List.find?_cons_of_pos (by simp), List.mem_cons, Prod.mk.injEq]
      simp [unique, eq_comm]
    · rw [List.find?_cons_of_neg (by simpa using first), ih rest, List.mem_cons, Prod.mk.injEq]
      simp [Ne.symm first]

theorem Sorted.distinct {es : List (String × String)} (sorted : Sorted es) :
    es.Pairwise (·.1 ≠ ·.1) := by
  refine List.Pairwise.imp (fun {e e'} lower same => ?_) sorted
  rw [same] at lower
  exact String.lt_irrefl _ lower

/-- **In whatever order the entries stand**, the last text under a key is the one that the details
have there. -/
theorem last?_arrange (order : Order) (d : Detail) (k : String) :
    last? (order.arrange d.entries) k = d.get? k := by
  have perm := (List.reverse_perm _).trans (order.perm d.entries)
  have distinct := (perm.pairwise_iff Ne.symm).mpr d.sorted.distinct
  refine Option.ext fun v => ?_
  rw [last?, get?, find?_key distinct, find?_key d.sorted.distinct]
  exact perm.mem_iff

theorem form_write (order : Order) (d : Detail) : d.Form (Mark.ofString (d.write order)) :=
  ⟨order.arrange d.entries, tableText_write _, fun k => (last?_arrange order d k).symm⟩

end Detail

/-! ### Logs -/

/-- The values of the fields of a log. -/
def Log.values (l : Log) : Log.record.Full
  | .kind => l.kind
  | .id => l.id
  | .level => l.level
  | .operation => l.operation
  | .description => l.description
  | .time => l.time
  | .operator => l.operator
  | .object => l.object
  | .origin => l.origin
  | .detail => l.detail

/-- The texts of the fields of a log. -/
def Log.Texts : Log.record.Texts
  | .kind => fun k => VariantText k.name
  | .id => StringText
  | .level => fun l => VariantText l.name
  | .operation => StringText
  | .description => StringText
  | .time => fun time t => t = Mark.ofString (toString time.toInt)
  | .operator => Operator.Form
  | .object => Object.Form
  | .origin => Origin.Form
  | .detail => Detail.Form

/-- **The texts of a log.** -/
def Log.Form (l : Log) (t : Input) : Prop := Log.record.Form Log.Texts l.values t

/-- **The flawed texts of logs**; the flaw may be in the operator, the object or the origin. -/
def Log.Flawed : Input → Prop :=
  Log.record.Flawed Log.Texts fun
    | .operator => Operator.Flawed
    | .object => Object.Flawed
    | .origin => Origin.Flawed
    | _ => fun _ => False

theorem LogKind.choice_name (k : LogKind) : choice? LogKind.names k.name = .ok k := by
  cases k <;> rfl

theorem Level.choice_name (l : Level) : choice? Level.names l.name = .ok l := by
  cases l <;> rfl

/-- A time is taken, from the earliest to the latest. -/
theorem takes_time (t : Int64) :
    Takes (Int64.ofInt <$> signed) (Mark.ofString (toString t.toInt)) t := by
  have takes := (takes_signed t).map Int64.ofInt
  rwa [Int64.ofInt_toInt] at takes

theorem Log.takes_text (i : Log.Field) (a : Log.record.type i) (t : Input)
    (text : Log.Texts i a t) : Takes (Log.record.read i) t a := by
  cases i with
  | kind => exact takes_variant (LogKind.choice_name _) text
  | id => exact takes_string _ text
  | level => exact takes_variant (Level.choice_name _) text
  | operation => exact takes_string _ text
  | description => exact takes_string _ text
  | time =>
    obtain rfl := text
    exact takes_time _
  | operator => exact Operator.takes_form text
  | object => exact Object.takes_form text
  | origin => exact Origin.takes_form text
  | detail => exact Detail.takes_form text

theorem Log.takes_form {l : Log} {t : Input} (form : l.Form t) :
    Takes Log.read t { l with status := none } :=
  (Record.takes_form (by decide) Log.takes_text form).build _

theorem Log.refuses_flawed {t : Input} (flawed : Log.Flawed t) :
    Refuses Log.read t := by
  refine (Record.refuses_flawed (by decide) Log.takes_text (fun i t flaw => ?_) flawed).build _
  cases i with
  | operator => exact Operator.refuses_flawed flaw
  | object => exact Object.refuses_flawed flaw
  | origin => exact Origin.refuses_flawed flaw
  | _ => exact flaw.elim

/-- **What is written of a log is one of its texts.** -/
theorem Log.form_write (order : Detail.Order) (l : Log) :
    l.Form (Mark.ofString (l.write order)) := by
  refine Record.form_write (by decide) fun i => ?_
  cases i with
  | kind => exact .plain (stringText_write _)
  | id => exact stringText_write _
  | level => exact .plain (stringText_write _)
  | operation => exact stringText_write _
  | description => exact stringText_write _
  | time => exact rfl
  | operator => exact l.operator.form_write
  | object => exact l.object.form_write
  | origin => exact l.origin.form_write
  | detail => exact l.detail.form_write order

/-- **A log is read back as it was written**, in whatever order its details were, but for its
outcome. -/
theorem Log.parse_write (order : Detail.Order) (l : Log) :
    Log.parse (Mark.ofString (l.write order)) = .ok { l with status := none } := by
  have read := (Log.takes_form (l.form_write order)).whole .nil .nil
  rwa [List.nil_append, List.append_nil] at read

end AuditRelay
