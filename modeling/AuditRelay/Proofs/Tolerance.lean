import AuditRelay.Proofs.Wire

/-!
# What the reader of logs tolerates

A log has many texts (`Log.Form`): the members of an object come in any order and among members of
other names, a part may be a list of its fields, a name may stand in an object, there may be space
anywhere, and a key of the details may come more than once. All of them are read as the log. But a
field that comes twice, or one that is missing, is not tolerated in any part (`Log.Flawed`).
-/

namespace AuditRelay

open Json

/-- **Every text of a log is read as that log, and no flawed text is read**: what is wrong with it is
that it holds something of the wrong shape, whatever follows. -/
theorem Log.parse_tolerant :
    (∀ {l : Log} {t s s' : Input}, l.status = none → l.Form t → Blank s → Blank s' →
      Log.parse (s ++ (t ++ s')) = .ok l) ∧
    ∀ {t s rest : Input}, Log.Flawed t → Blank s →
      ∃ e, Log.parse (s ++ (t ++ rest)) = .error e ∧ e.category = .mismatched := by
  refine ⟨fun {l t s s'} unwritten form before behind => ?_, fun flawed blank => ?_⟩
  · have read := (Log.takes_form form).whole before behind
    rwa [show ({ l with status := none } : Log) = l by rw [← unwritten]] at read
  · exact (Log.refuses_flawed flawed).whole blank _

/-- An object whose members come in another order, with one that is no field of it. -/
theorem Object.form_reordered :
    (⟨"flow", "1", "f"⟩ : Object).Form (Mark.ofString (writeObject
      [("status", "null"), ("name", writeString "f"), ("id", writeString "1"),
        ("type", writeString "flow")])) := by
  obtain ⟨u, members, text⟩ := members_writeObject
    [("status", "null"), ("name", writeString "f"), ("id", writeString "1"),
      ("type", writeString "flow")]
  rw [text]
  refine .object ⟨fun m hm i hi => ?_, fun m hm unknown => ?_, fun i => ?_, fun i missing => ?_⟩
    members
  · simp only [List.map_cons, List.map_nil, List.mem_cons, List.not_mem_nil, or_false] at hm
    rcases hm with rfl | rfl | rfl | rfl <;> cases i <;>
      first | exact stringText_write _ | exact absurd hi (by decide)
  · simp only [List.map_cons, List.map_nil, List.mem_cons, List.not_mem_nil, or_false] at hm
    rcases hm with rfl | rfl | rfl | rfl
    · exact .null
    · exact absurd rfl (unknown .name)
    · exact absurd rfl (unknown .id)
    · exact absurd rfl (unknown .kind)
  · cases i <;> decide
  · cases i <;> exact absurd (by decide) missing

/-- The texts of the fields of a log: a name in an object, an operator that is a list, an object
whose members come in another order, and details in which a key comes twice. -/
def Log.items : Log.Field → String
  | .kind => writeObject [("login", "null")]
  | .id => writeString "7"
  | .level => writeString "WARN"
  | .operation => writeString "start"
  | .description => writeString ""
  | .time => "-1"
  | .operator => writeList [writeString "user", writeString "2", writeString "",
      Agent.write ⟨"web", "", ""⟩]
  | .object => writeObject [("status", "null"), ("name", writeString "f"), ("id", writeString "1"),
      ("type", writeString "flow")]
  | .origin => Origin.write ⟨"p", ⟨"s"⟩⟩
  | .detail => writeObject ([("k", "1"), ("k", "2")].map fun e => (e.1, writeString e.2))

theorem ofString_writeList (ts : List String) :
    Mark.ofString (writeList ts)
      = .char '[' :: (Mark.ofString (",".intercalate ts) ++ [.char ']']) := by
  rw [writeList, Mark.ofString_append, Mark.ofString_append]
  rfl

/-- The texts of the fields of the operator in that log. -/
def Operator.items : Operator.Field → String
  | .kind => writeString "user"
  | .id => writeString "2"
  | .name => writeString ""
  | .agent => Agent.write ⟨"web", "", ""⟩

theorem Operator.form_list :
    (⟨"user", "2", "", ⟨"web", "", ""⟩⟩ : Operator).Form (Mark.ofString (Log.items .operator)) := by
  have items := separated_intercalate (Operator.record.fields.map Operator.items)
  rw [List.map_map] at items
  have all : Operator.record.fields = Operator.record.fields ++ [] := (List.append_nil _).symm
  rw [Log.items, ofString_writeList]
  refine .list all (fun i _ => ?_)
    (fun i hi => absurd hi List.not_mem_nil) items
  cases i with
  | agent => exact Agent.form_write _
  | _ => exact stringText_write _

/-- A log that is a list of its fields. -/
theorem Log.form_list :
    (⟨.login, "7", .warn, "start", "", -1, ⟨"user", "2", "", ⟨"web", "", ""⟩⟩, ⟨"flow", "1", "f"⟩,
        ⟨"p", ⟨"s"⟩⟩, Detail.empty.insert "k" "2", none⟩ : Log).Form
      (Mark.ofString (writeList (Log.record.fields.map Log.items))) := by
  have items := separated_intercalate (Log.record.fields.map Log.items)
  rw [List.map_map] at items
  have all : Log.record.fields = Log.record.fields ++ [] := (List.append_nil _).symm
  rw [ofString_writeList]
  refine .list all (fun i _ => ?_)
    (fun i hi => absurd hi List.not_mem_nil) items
  cases i with
  | kind => exact .object (stringText_write "login") .nil .nil .nil .nil
  | level => exact .plain (stringText_write "WARN")
  | time => exact rfl
  | operator => exact Operator.form_list
  | object => exact Object.form_reordered
  | origin => exact Origin.form_write _
  | detail => exact ⟨_, tableText_write _, fun k => Detail.get?_ofList [("k", "1"), ("k", "2")] k⟩
  | _ => exact stringText_write _

/-- Members that are fields, each of them well formed or flawed in itself. -/
theorem Json.Record.values_of_fields {ι : Type} [DecidableEq ι] {r : Record ι} {texts : r.Texts}
    {flaws : ι → Input → Prop} (names : (r.fields.map r.name).Nodup) {ms : List (String × Input)}
    (fields : ∀ m ∈ ms, ∃ i, m.1 = r.name i ∧ ((∃ a, texts i a m.2) ∨ flaws i m.2)) :
    r.Values texts flaws ms := by
  refine ⟨fun m hm i hi => ?_, fun m hm unknown => ?_⟩
  · obtain ⟨j, hj, value⟩ := fields m hm
    rwa [List.inj_on_of_nodup_map names (r.complete i) (r.complete j) (hi.symm.trans hj)]
  · obtain ⟨j, hj, -⟩ := fields m hm
    exact absurd hj (unknown j)

/-- An agent in which a field comes twice. -/
theorem Agent.flawed_ip :
    Agent.Flawed (Mark.ofString (writeObject [("ip", writeString ""), ("ip", writeString "")])) := by
  obtain ⟨u, members, text⟩ := members_writeObject [("ip", writeString ""), ("ip", writeString "")]
  have values : Agent.record.Values Agent.Texts (fun _ _ => False)
      [("ip", Mark.ofString (writeString "")), ("ip", Mark.ofString (writeString ""))] := by
    refine Record.values_of_fields (by decide) fun m hm => ?_
    simp only [List.mem_cons, List.not_mem_nil, or_false, or_self] at hm
    subst hm
    exact ⟨.ip, rfl, Or.inl ⟨"", stringText_write ""⟩⟩
  rw [text]
  exact .repeated (i := .ip) members values (by decide)

/-- A log whose operator has such an agent. -/
theorem Log.flawed_agent :
    Log.Flawed (Mark.ofString (writeObject [("operator", writeObject [("agent",
      writeObject [("ip", writeString ""), ("ip", writeString "")])])])) := by
  have operator : Operator.Flawed (Mark.ofString (writeObject [("agent",
      writeObject [("ip", writeString ""), ("ip", writeString "")])])) := by
    obtain ⟨u, members, text⟩ := members_writeObject
      [("agent", writeObject [("ip", writeString ""), ("ip", writeString "")])]
    rw [text]
    refine .member (i := .agent) members (Record.values_of_fields (by decide) fun m hm => ?_)
      List.mem_cons_self Agent.flawed_ip
    rw [List.mem_singleton.mp hm]
    exact ⟨.agent, rfl, Or.inr Agent.flawed_ip⟩
  obtain ⟨u, members, text⟩ := members_writeObject [("operator", writeObject [("agent",
    writeObject [("ip", writeString ""), ("ip", writeString "")])])]
  rw [text]
  refine .member (i := .operator) members (Record.values_of_fields (by decide) fun m hm => ?_)
    List.mem_cons_self operator
  rw [List.mem_singleton.mp hm]
  exact ⟨.operator, rfl, Or.inr operator⟩

theorem Log.parse_tolerant_list :
    Log.parse (.char ' ' :: Mark.ofString (writeList (Log.record.fields.map Log.items)))
      = .ok ⟨.login, "7", .warn, "start", "", -1, ⟨"user", "2", "", ⟨"web", "", ""⟩⟩,
          ⟨"flow", "1", "f"⟩, ⟨"p", ⟨"s"⟩⟩, Detail.empty.insert "k" "2", none⟩ ∧
    ∃ e, Log.parse (Mark.ofString (writeObject [("operator", writeObject [("agent",
        writeObject [("ip", writeString ""), ("ip", writeString "")])])])) = .error e ∧
      e.category = .mismatched := by
  have space : Blank [.char ' '] := fun m hm => by rw [List.mem_singleton.mp hm]; rfl
  refine ⟨?_, ?_⟩
  · have read := Log.parse_tolerant.1 rfl Log.form_list space .nil
    rw [List.append_nil, List.singleton_append] at read
    exact read
  · obtain ⟨e, stopped, category⟩ : ∃ e, Log.parse ([] ++ (_ ++ [])) = .error e ∧ _ :=
      Log.parse_tolerant.2 Log.flawed_agent .nil
    rw [List.append_nil] at stopped
    exact ⟨e, stopped, category⟩

end AuditRelay
