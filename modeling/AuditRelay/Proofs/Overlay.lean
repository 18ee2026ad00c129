import AuditRelay.Proofs.Wire
import AuditRelay.Settings

/-!
# Settings over their defaults

Settings are read from an object that holds some of their fields, and what is left out keeps its
default: the result is the default overlaid with the fields that are there (`Settings.overlay`). The
same holds for the settings of the process log, and for the endpoint of a broker, of which three
fields have to be there and the others are empty if they are left out. What is written of settings is
read back; of an endpoint, all but the password.
-/

namespace AuditRelay

open Json

/-! ### Members for some fields -/

/-- **Members that hold just the fields of a set**, with the values of a record, among members of
other names. -/
structure Json.Record.Holds {ι : Type} [DecidableEq ι] (r : Record ι) (texts : r.Texts) (v : r.Full)
    (set : ι → Bool) (ms : List (String × Input)) : Prop where
  fields : ∀ m ∈ ms, ∀ i, m.1 = r.name i → texts i (v i) m.2
  others : ∀ m ∈ ms, (∀ i, m.1 ≠ r.name i) → ValueText m.2
  once : ∀ i, (ms.map (·.1)).count (r.name i) ≤ 1
  exactly : ∀ i, r.name i ∈ ms.map (·.1) ↔ set i = true

/-- They fit every record that agrees on these fields and has all others absent. -/
theorem Json.Record.Holds.fits {ι : Type} [DecidableEq ι] {r : Record ι} {texts texts' : r.Texts}
    {v w : r.Full} {set : ι → Bool} {ms : List (String × Input)} (holds : r.Holds texts v set ms)
    (chosen : ∀ i t, set i = true → texts i (v i) t → texts' i (w i) t)
    (absent : ∀ i, set i = false → r.absent i = some (w i)) : r.Fits texts' w ms where
  fields m hm i hi := by
    have there : r.name i ∈ ms.map (·.1) := hi ▸ List.mem_map_of_mem hm
    exact chosen i m.2 ((holds.exactly i).mp there) (holds.fields m hm i hi)
  others := holds.others
  once := holds.once
  absent i missing :=
    absent i (Bool.eq_false_iff.mpr fun there => missing ((holds.exactly i).mpr there))

theorem Json.Record.Holds.nil {ι : Type} [DecidableEq ι] {r : Record ι} {texts : r.Texts}
    {v : r.Full} : r.Holds texts v (fun _ => false) [] where
  fields _ hm := absurd hm List.not_mem_nil
  others _ hm := absurd hm List.not_mem_nil
  once _ := Nat.zero_le _
  exactly i := by simp

/-- One more field. -/
theorem Json.Record.Holds.field {ι : Type} [DecidableEq ι] {r : Record ι} {texts : r.Texts}
    {v : r.Full} {set : ι → Bool} {ms : List (String × Input)} (holds : r.Holds texts v set ms)
    (names : (r.fields.map r.name).Nodup) (i : ι) (new : set i = false) {t : Input}
    (text : texts i (v i) t) :
    r.Holds texts v (fun j => decide (j = i) || set j) ((r.name i, t) :: ms) := by
  have same : ∀ j, r.name i = r.name j → j = i := fun j h =>
    List.inj_on_of_nodup_map names (r.complete j) (r.complete i) h.symm
  refine ⟨fun m hm j hj => ?_, fun m hm unknown => ?_, fun j => ?_, fun j => ?_⟩
  · rcases List.mem_cons.mp hm with rfl | hm
    · obtain rfl := same j hj
      exact text
    · exact holds.fields m hm j hj
  · rcases List.mem_cons.mp hm with rfl | hm
    · exact absurd rfl (unknown i)
    · exact holds.others m hm unknown
  · rw [List.map_cons]
    by_cases hj : r.name i = r.name j
    · obtain rfl := same j hj
      have none_before : r.name j ∉ ms.map (·.1) := fun there => by
        rw [(holds.exactly j).mp there] at new
        cases new
      rw [List.count_cons_self, List.count_eq_zero.mpr none_before]
    · rw [List.count_cons_of_ne hj]
      exact holds.once j
  · rw [List.map_cons, List.mem_cons, holds.exactly j, Bool.or_eq_true, decide_eq_true_eq]
    exact or_congr_left ⟨fun h => same j h.symm, fun h => by rw [h]⟩

/-- One more member of another name. -/
theorem Json.Record.Holds.other {ι : Type} [DecidableEq ι] {r : Record ι} {texts : r.Texts}
    {v : r.Full} {set : ι → Bool} {ms : List (String × Input)} (holds : r.Holds texts v set ms)
    (name : String) (unknown : ∀ i, name ≠ r.name i) {t : Input} (value : ValueText t) :
    r.Holds texts v set ((name, t) :: ms) := by
  refine ⟨fun m hm j hj => ?_, fun m hm known => ?_, fun j => ?_, fun j => ?_⟩
  · rcases List.mem_cons.mp hm with rfl | hm
    · exact absurd hj (unknown j)
    · exact holds.fields m hm j hj
  · rcases List.mem_cons.mp hm with rfl | hm
    · exact value
    · exact holds.others m hm known
  · rw [List.map_cons, List.count_cons_of_ne (unknown j)]
    exact holds.once j
  · rw [List.map_cons, List.mem_cons, holds.exactly j]
    exact or_iff_right fun h => unknown j h.symm

/-! ### Words and truth values -/

theorem takes_word16 (n : UInt16) : Takes word16 (Mark.ofString (toString n.toNat)) n := by
  have takes := (takes_unsigned "u16" (by decide) n.toNat_lt_size).map UInt16.ofNat
  rwa [UInt16.ofNat_toNat] at takes

theorem takes_word32 (n : UInt32) : Takes word32 (Mark.ofString (toString n.toNat)) n := by
  have takes := (takes_unsigned "u32" (by decide) n.toNat_lt_size).map UInt32.ofNat
  rwa [UInt32.ofNat_toNat] at takes

theorem takes_word64 (expected : String) (n : UInt64) :
    Takes (word64 expected) (Mark.ofString (toString n.toNat)) n := by
  have takes := (takes_unsigned expected (Nat.le_refl _) n.toNat_lt_size).map UInt64.ofNat
  rwa [UInt64.ofNat_toNat] at takes

theorem takes_bool (b : Bool) : Takes Json.bool (Mark.ofString (writeBool b)) b := by
  cases b with
  | true =>
    refine ⟨⟨.char 't', _, rfl, rfl, by decide⟩, fun {s rest} blank _ => ?_⟩
    change Json.bool (s ++ .char 't' :: .char 'r' :: .char 'u' :: .char 'e' :: rest) = _
    rw [Json.bool, bind_ok (valueStart_blank blank rfl _)]
    rfl
  | false =>
    refine ⟨⟨.char 'f', _, rfl, rfl, by decide⟩, fun {s rest} blank _ => ?_⟩
    change Json.bool (s ++ .char 'f' :: .char 'a' :: .char 'l' :: .char 's' :: .char 'e' :: rest) = _
    rw [Json.bool, bind_ok (valueStart_blank blank rfl _)]
    rfl

/-- A whole number is taken where a value of any shape may stand. -/
theorem takes_count (fuel depth : Nat) {n : Nat} (small : n < UInt64.size) :
    Takes (Value.read fuel (depth + 1)) (Mark.ofString n.repr) (.number (.whole n)) := by
  obtain ⟨c, cs, -, text, digit, -⟩ := ofString_repr n
  have value : (digit? (.char c)).isSome = true := by
    rw [digit?_char digit]
    rfl
  -- a digit is none of the marks that other values begin with
  have other : ∀ x : Char, digit? (.char x) = none → Mark.char c ≠ .char x := by
    rintro x hx ⟨⟩
    rw [hx] at value
    cases value
  have notNull := other 'n' rfl
  have notTrue := other 't' rfl
  have notFalse := other 'f' rfl
  have notMinus := other '-' rfl
  have notString := other '\"' rfl
  have notList := other '[' rfl
  have notObject := other '{' rfl
  refine ⟨⟨_, _, text, isSpace_digit value, other ']' rfl⟩, fun {s rest} blank ends => ?_⟩
  have read := number_repr true small ends
  rw [text, List.cons_append] at read ⊢
  rw [Value.read, bind_ok (valueStart_blank blank (isSpace_digit value) _)]
  simp only [value, if_true]
  change (Json.number true _ >>= fun p => pure (Value.number p.1, p.2)) = _
  rw [read]
  rfl

/-! ### Partitions -/

namespace Partitioning

/-- **The texts of a partitioning**: an object with the tag and, if it is random, the number of
partitions before or behind it. -/
inductive Form : Partitioning → Input → Prop where
  | single {t u : Input} (name : StringText "single" t) (members : Members Quoted [(tag, t)] u) :
      Form single (.char '{' :: (u ++ [.char '}']))
  | random {n : UInt32} {t u : Input} (name : StringText "random" t)
      (members : Members Quoted [(tag, t), (partitionsKey, Mark.ofString (toString n.toNat))] u) :
      Form (random n) (.char '{' :: (u ++ [.char '}']))
  | behind {n : UInt32} {t u : Input} (name : StringText "random" t)
      (members : Members Quoted [(partitionsKey, Mark.ofString (toString n.toNat)), (tag, t)] u) :
      Form (random n) (.char '{' :: (u ++ [.char '}']))

variable {value : Read Value} {fuel : Nat} {first : Bool} {input rest rest' : Input}

theorem members_end (kind : Option Kind) :
    members value (fuel + 1) first kind (.char '}' :: rest) = .ok ((kind, []), .char '}' :: rest) := by
  rw [members, bind_ok (nextKey_end first rest)]
  rfl

theorem members_skip (kind : Option Kind) {s : Input} (blank : Blank s) :
    members value (fuel + 1) first kind (s ++ rest) = members value (fuel + 1) first kind rest :=
  bind_congr _ (nextKey_skip first blank rest)

/-- The tag comes next. -/
theorem members_tag {x t : Input} {name : String} {kind : Kind} (text : StringText name x)
    (choice : choice? Kind.names name = .ok kind) (member : Member Quoted (tag, x) t)
    (next : nextKey first input = .ok (true, t ++ rest)) :
    members value (fuel + 1) first none input = members value fuel false (some kind) rest := by
  obtain ⟨s, s', before, behind, read⟩ := member.key_read
  rw [members, bind_ok next]
  simp only [if_true]
  rw [bind_ok (read rest)]
  simp only [if_true, Option.isSome_none, Bool.false_eq_true, if_false]
  rw [bind_ok (colon_blank before _), bind_ok (identifier_text choice text behind rest)]

/-- Another member comes next. -/
theorem members_other {x t : Input} {name : String} {v : Value} {kind kind' : Option Kind}
    {vs : List (String × Value)} (other : name ≠ tag) (takes : Takes value x v)
    (member : Member Quoted (name, x) t) (next : nextKey first input = .ok (true, t ++ rest))
    (ends : Ends rest) (others : members value fuel false kind rest = .ok ((kind', vs), rest')) :
    members value (fuel + 1) first kind input = .ok ((kind', (name, v) :: vs), rest') := by
  obtain ⟨s, s', before, behind, read⟩ := member.key_read
  rw [members, bind_ok next]
  simp only [if_true]
  rw [bind_ok (read rest)]
  simp only [if_neg other]
  rw [bind_ok (colon_blank before _), bind_ok (takes.taken behind ends), bind_ok others]
  rfl

/-- One member, with space around it. -/
theorem separated_one {m : String × Input} {u : Input} (members : Members Quoted [m] u) :
    ∃ s t s', Blank s ∧ Blank s' ∧ Member Quoted m t ∧ u = s ++ (t ++ s') := by
  obtain ⟨_, _ | ⟨member, _ | _⟩, separated⟩ := members
  obtain _ | ⟨before, behind | _⟩ := separated
  exact ⟨_, _, _, before, behind, member, rfl⟩

/-- Two members, with space around them. -/
theorem separated_two {m m' : String × Input} {u : Input} (members : Members Quoted [m, m'] u) :
    ∃ s₁ t s₂ s₃ t' s₄, Blank s₁ ∧ Blank s₂ ∧ Blank s₃ ∧ Blank s₄ ∧ Member Quoted m t ∧
      Member Quoted m' t' ∧ u = s₁ ++ (t ++ (s₂ ++ .char ',' :: (s₃ ++ (t' ++ s₄)))) := by
  obtain ⟨_, _ | ⟨member, _ | ⟨member', _ | _⟩⟩, separated⟩ := members
  obtain _ | ⟨blank₁, _ | ⟨blank₂, blank₃, blank₄ | _⟩⟩ := separated
  exact ⟨_, _, _, _, _, _, blank₁, blank₂, blank₃, blank₄, member, member', rfl⟩

/-- A number of partitions is taken for what it is. -/
theorem count?_number (n : UInt32) : count? (.number (.whole n.toNat)) = .ok n := by
  have small : n.toNat < UInt32.size := n.toNat_lt_size
  change UInt32.ofNat <$> (if n.toNat < UInt32.size then _ else _) = _
  rw [if_pos small]
  exact congrArg Except.ok UInt32.ofNat_toNat

theorem ofMembers_random (n : UInt32) :
    ofMembers .random [(partitionsKey, .number (.whole n.toNat))] = .ok (random n) := by
  rw [ofMembers, countOfMembers]
  simp only [if_true, Option.isSome_none, Bool.false_eq_true, if_false, count?_number]
  rfl

theorem takes_partitions (fuel depth : Nat) (n : UInt32) :
    Takes (Value.read fuel (depth + 1)) (Mark.ofString (toString n.toNat))
      (.number (.whole n.toNat)) :=
  takes_count fuel depth (Nat.lt_of_lt_of_le n.toNat_lt_size (by decide))

/-- **Every text of a partitioning is taken**, with room for it and its members. -/
theorem takes_form (depth : Nat) {p : Partitioning} {t : Input} (form : p.Form t) :
    Takes (read (depth + 2)) t p := by
  have object : ∀ {u : Input} (kind : Kind) (vs : List (String × Value)),
      ofMembers kind vs = .ok p →
      (∀ rest, ∃ fuel, room (u ++ .char '}' :: rest) = .ok (fuel, u ++ .char '}' :: rest) ∧
        members (Value.read fuel (depth + 1)) fuel true none (u ++ .char '}' :: rest)
          = .ok ((some kind, vs), .char '}' :: rest)) →
      Takes (read (depth + 2)) (.char '{' :: (u ++ [.char '}'])) p := by
    intro u kind vs made run
    refine ⟨⟨_, _, rfl, rfl, by decide⟩, fun {s rest} blank _ => ?_⟩
    obtain ⟨fuel, hroom, hmembers⟩ := run rest
    rw [List.cons_append, List.append_assoc, List.singleton_append, read,
      bind_ok (valueStart_blank blank rfl _)]
    simp only
    rw [bind_ok (advance_cons _ _), bind_ok hroom]
    rw [show depth + 2 - 1 = depth + 1 from rfl, bind_ok hmembers]
    simp only
    rw [bind_ok (endObject_close rest), made]
    rfl
  cases form with
  | @single x u name one =>
    obtain ⟨s, t, s', blank, blank', member, rfl⟩ := separated_one one
    refine object .single [] rfl fun rest => ?_
    obtain ⟨fuel, hroom⟩ := room_separated (.cons blank (.nil blank')) (List.cons_ne_nil (.char '}') rest)
    refine ⟨_, hroom, ?_⟩
    have next := member.next_first blank (s' ++ .char '}' :: rest)
    rw [List.append_assoc, List.append_assoc, List.length_singleton,
      members_tag name rfl member next, members_skip _ blank', members_end]
  | @random n x u name two =>
    obtain ⟨s₁, t, s₂, s₃, t', s₄, blank₁, blank₂, blank₃, blank₄, member, member', rfl⟩ :=
      separated_two two
    refine object .random _ (ofMembers_random n) fun rest => ?_
    obtain ⟨fuel, hroom⟩ := room_separated (.cons blank₁ (.cons blank₂ blank₃ (.nil blank₄)))
      (List.cons_ne_nil (.char '}') rest)
    refine ⟨_, hroom, ?_⟩
    have ends : Ends (s₄ ++ .char '}' :: rest) := blank₄.ends (.objectEnd rest)
    have first := member.next_first blank₁ (s₂ ++ .char ',' :: (s₃ ++ (t' ++ (s₄ ++ .char '}' :: rest))))
    have second := member'.next_comma blank₂ blank₃ (s₄ ++ .char '}' :: rest)
    have last : members (Value.read (fuel + 3) (depth + 1)) (fuel + 1) false (some .random)
        (s₄ ++ .char '}' :: rest) = .ok ((some .random, []), .char '}' :: rest) := by
      rw [members_skip _ blank₄, members_end]
    simp only [List.append_assoc, List.cons_append]
    change members _ (fuel + 1 + 1 + 1) true none _ = _
    rw [members_tag name rfl member first]
    exact members_other (by decide) (takes_partitions _ depth n) member' second ends last
  | @behind n x u name two =>
    obtain ⟨s₁, t, s₂, s₃, t', s₄, blank₁, blank₂, blank₃, blank₄, member, member', rfl⟩ :=
      separated_two two
    refine object .random _ (ofMembers_random n) fun rest => ?_
    obtain ⟨fuel, hroom⟩ := room_separated (.cons blank₁ (.cons blank₂ blank₃ (.nil blank₄)))
      (List.cons_ne_nil (.char '}') rest)
    refine ⟨_, hroom, ?_⟩
    have ends : Ends (s₂ ++ .char ',' :: (s₃ ++ (t' ++ (s₄ ++ .char '}' :: rest)))) :=
      blank₂.ends (.comma _)
    have first := member.next_first blank₁ (s₂ ++ .char ',' :: (s₃ ++ (t' ++ (s₄ ++ .char '}' :: rest))))
    have second := member'.next_comma blank₂ blank₃ (s₄ ++ .char '}' :: rest)
    have last : members (Value.read (fuel + 3) (depth + 1)) (fuel + 1) false (some .random)
        (s₄ ++ .char '}' :: rest) = .ok ((some .random, []), .char '}' :: rest) := by
      rw [members_skip _ blank₄, members_end]
    simp only [List.append_assoc, List.cons_append]
    change members _ (fuel + 1 + 1 + 1) true none _ = _
    refine members_other (by decide) (takes_partitions _ depth n) member first ends ?_
    exact (members_tag name rfl member' second).trans last

/-- What is written of a partitioning is one of its texts. -/
theorem form_write (p : Partitioning) : p.Form (Mark.ofString p.write) := by
  cases p with
  | single =>
    obtain ⟨u, members, text⟩ := members_writeObject [(tag, writeString "single")]
    rw [write, text]
    exact .single (stringText_write _) members
  | random n =>
    obtain ⟨u, members, text⟩ :=
      members_writeObject [(tag, writeString "random"), (partitionsKey, toString n.toNat)]
    rw [write, text]
    exact .random (stringText_write _) members

end Partitioning

/-! ### Settings -/

namespace Settings

/-- The values of the fields of settings. -/
def values (s : Settings) : (record Value.maxDepth).Full
  | .topic => s.topic
  | .stream => s.stream
  | .capacity => s.capacity
  | .interval => s.interval
  | .retries => s.retries
  | .openRequests => s.openRequests
  | .replicas => s.replicas
  | .partitioning => s.partitioning
  | .origin => s.origin
  | .bypass => s.bypass

/-- The texts of the fields of settings. -/
def Texts : (record Value.maxDepth).Texts
  | .topic => StringText
  | .stream => StringText
  | .capacity => fun n t => t = Mark.ofString (toString n.toNat)
  | .interval => fun n t => t = Mark.ofString (toString n.toNat)
  | .retries => fun n t => t = Mark.ofString (toString n.toNat)
  | .openRequests => fun n t => t = Mark.ofString (toString n.toNat)
  | .replicas => fun n t => t = Mark.ofString (toString n.toNat)
  | .partitioning => Partitioning.Form
  | .origin => Origin.Form
  | .bypass => fun b t => t = Mark.ofString (writeBool b)

theorem takes_text (i : Settings.Field) (a : (record Value.maxDepth).type i) (t : Input)
    (text : Texts i a t) : Takes ((record Value.maxDepth).read i) t a := by
  cases i with
  | topic => exact takes_string _ text
  | stream => exact takes_string _ text
  | capacity => exact text ▸ takes_word64 _ _
  | interval => exact text ▸ takes_word64 _ _
  | retries => exact text ▸ takes_word32 _
  | openRequests => exact text ▸ takes_word64 _ _
  | replicas => exact text ▸ takes_word64 _ _
  | partitioning => exact Partitioning.takes_form 125 text
  | origin => exact Origin.takes_form text
  | bypass => exact text ▸ takes_bool _

theorem takes_form {s : Settings} {t : Input}
    (form : (record Value.maxDepth).Form Texts s.values t) : Takes Settings.read t s :=
  (Record.takes_form (by decide) takes_text form).build _

theorem form_write (s : Settings) :
    (record Value.maxDepth).Form Texts s.values (Mark.ofString s.write) := by
  refine Record.form_write (by decide) fun i => ?_
  cases i with
  | topic => exact stringText_write _
  | stream => exact stringText_write _
  | partitioning => exact s.partitioning.form_write
  | origin => exact s.origin.form_write
  | _ => exact rfl

/-- **Settings with some of the fields of others**, and the default for all the rest. -/
def overlay (set : Settings.Field → Bool) (s : Settings) : Settings where
  topic := if set .topic then s.topic else default.topic
  stream := if set .stream then s.stream else default.stream
  capacity := if set .capacity then s.capacity else default.capacity
  interval := if set .interval then s.interval else default.interval
  retries := if set .retries then s.retries else default.retries
  openRequests := if set .openRequests then s.openRequests else default.openRequests
  replicas := if set .replicas then s.replicas else default.replicas
  partitioning := if set .partitioning then s.partitioning else default.partitioning
  origin := if set .origin then s.origin else default.origin
  bypass := if set .bypass then s.bypass else default.bypass

@[simp] theorem overlay_none (s : Settings) : s.overlay (fun _ => false) = default := rfl

@[simp] theorem overlay_all (s : Settings) : s.overlay (fun _ => true) = s := rfl

/-- The fields of a set have the values of the others. -/
theorem overlay_values {set : Settings.Field → Bool} {i : Settings.Field} (there : set i = true)
    (s : Settings) : (s.overlay set).values i = s.values i := by
  cases i <;> exact if_pos there

/-- The other fields have their defaults. -/
theorem overlay_absent {set : Settings.Field → Bool} {i : Settings.Field} (missing : set i = false)
    (s : Settings) : (record Value.maxDepth).absent i = some ((s.overlay set).values i) := by
  cases i <;> exact congrArg some (if_neg (by rw [missing]; exact Bool.false_ne_true)).symm

/-- **An object that holds some fields of settings is read as these over the default.** -/
theorem read_overlay {s : Settings} {set : Settings.Field → Bool} {ms : List (String × Input)}
    {u : Input} (holds : (record Value.maxDepth).Holds Texts s.values set ms)
    (members : Members Quoted ms u) : Takes Settings.read (.char '{' :: (u ++ [.char '}'])) (s.overlay set) := by
  refine takes_form (.object (holds.fits (fun i t there text => ?_) fun i missing => ?_) members)
  · rw [overlay_values there]
    exact text
  · exact overlay_absent missing s

end Settings

/-! ### Settings of the process log -/

namespace LogSettings

/-- The values of the fields of log settings. -/
def values (s : LogSettings) : record.Full
  | .service => s.service
  | .level => s.level
  | .develop => s.develop

/-- The texts of the fields of log settings. -/
def Texts : record.Texts
  | .service => StringText
  | .level => StringText
  | .develop => fun b t => t = Mark.ofString (writeBool b)

theorem takes_text (i : LogSettings.Field) (a : record.type i) (t : Input) (text : Texts i a t) :
    Takes (record.read i) t a := by
  cases i with
  | service => exact takes_string _ text
  | level => exact takes_string _ text
  | develop => exact text ▸ takes_bool _

theorem takes_form {s : LogSettings} {t : Input} (form : record.Form Texts s.values t) :
    Takes LogSettings.read t s :=
  (Record.takes_form (by decide) takes_text form).build _

theorem form_write (s : LogSettings) : record.Form Texts s.values (Mark.ofString s.write) := by
  refine Record.form_write (by decide) fun i => ?_
  cases i with
  | service => exact stringText_write _
  | level => exact stringText_write _
  | develop => exact rfl

/-- **Log settings with some of the fields of others**, and the default for the rest. -/
def overlay (set : LogSettings.Field → Bool) (s : LogSettings) : LogSettings where
  service := if set .service then s.service else default.service
  level := if set .level then s.level else default.level
  develop := if set .develop then s.develop else default.develop

@[simp] theorem overlay_none (s : LogSettings) : s.overlay (fun _ => false) = default := rfl

@[simp] theorem overlay_all (s : LogSettings) : s.overlay (fun _ => true) = s := rfl

/-- **An object that holds some fields of log settings is read as these over the default.** -/
theorem read_overlay {s : LogSettings} {set : LogSettings.Field → Bool} {ms : List (String × Input)}
    {u : Input} (holds : record.Holds Texts s.values set ms) (members : Members Quoted ms u) :
    Takes LogSettings.read (.char '{' :: (u ++ [.char '}'])) (s.overlay set) := by
  refine takes_form (.object (holds.fits (fun i t there text => ?_) fun i missing => ?_) members)
  · have same : (s.overlay set).values i = s.values i := by cases i <;> exact if_pos there
    rw [same]
    exact text
  · cases i <;> exact congrArg some (if_neg (by rw [missing]; exact Bool.false_ne_true)).symm

end LogSettings

/-! ### Endpoints -/

namespace Credentials

/-- The values of the fields of credentials. -/
def values (c : Credentials) : record.Full
  | .username => c.username
  | .password => c.password
  | .mechanism => c.mechanism

/-- The texts of the fields of credentials: all of them are strings. -/
def Texts : record.Texts := fun _ => StringText

theorem takes_text (i : Credentials.Field) (a : String) (t : Input) (text : Texts i a t) :
    Takes (record.read i) t a :=
  takes_string _ text

theorem takes_form {c : Credentials} {t : Input} (form : record.Form Texts c.values t) :
    Takes Credentials.read t c :=
  (Record.takes_form (by decide) takes_text form).build _

/-- What is written of credentials is a text of them without the password. -/
theorem form_write (c : Credentials) :
    record.Form Texts ({ c with password := "" } : Credentials).values (Mark.ofString c.write) := by
  refine Record.form_write (by decide) fun i => ?_
  cases i with
  | username => exact stringText_write _
  | password => exact rfl
  | mechanism => exact stringText_write _

/-- Credentials with some of the fields of others; the rest is empty. -/
def overlay (set : Credentials.Field → Bool) (c : Credentials) : Credentials where
  username := if set .username then c.username else ""
  password := if set .password then c.password else ""
  mechanism := if set .mechanism then c.mechanism else ""

/-- **Texts that hold some fields of credentials.** -/
def Part (set : Credentials.Field → Bool) (c : Credentials) (t : Input) : Prop :=
  ∃ ms u, record.Holds Texts c.values set ms ∧ Members Quoted ms u ∧ t = .char '{' :: (u ++ [.char '}'])

theorem Part.form {set : Credentials.Field → Bool} {c : Credentials} {t : Input}
    (part : c.Part set t) : record.Form Texts (c.overlay set).values t := by
  obtain ⟨ms, u, holds, members, rfl⟩ := part
  refine .object (holds.fits (fun i t there text => ?_) fun i missing => ?_) members
  · have same : (c.overlay set).values i = c.values i := by cases i <;> exact if_pos there
    rw [same]
    exact text
  · cases i <;> exact congrArg some (if_neg (by rw [missing]; exact Bool.false_ne_true)).symm

end Credentials

namespace Endpoint

/-- The values of the fields of an endpoint. -/
def values (e : Endpoint) : record.Full
  | .transport => e.transport
  | .host => e.host
  | .port => e.port
  | .tenant => e.tenant
  | .credentials => e.credentials

/-- The texts of the fields of an endpoint, with the given ones for its credentials. -/
def Texts (credentials : Credentials → Input → Prop) : record.Texts
  | .transport => StringText
  | .host => StringText
  | .port => fun n t => t = Mark.ofString (toString n.toNat)
  | .tenant => StringText
  | .credentials => credentials

/-- The texts of all fields. -/
abbrev FullTexts : record.Texts :=
  Texts fun c => Credentials.record.Form Credentials.Texts c.values

theorem takes_text (i : Endpoint.Field) (a : record.type i) (t : Input) (text : FullTexts i a t) :
    Takes (record.read i) t a := by
  cases i with
  | transport => exact takes_string _ text
  | host => exact takes_string _ text
  | port => exact text ▸ takes_word16 _
  | tenant => exact takes_string _ text
  | credentials => exact Credentials.takes_form text

theorem takes_form {e : Endpoint} {t : Input} (form : record.Form FullTexts e.values t) :
    Takes Endpoint.read t e :=
  (Record.takes_form (by decide) takes_text form).build _

/-- What is written of an endpoint is a text of it without the password. -/
theorem form_write (e : Endpoint) :
    record.Form FullTexts
      ({ e with credentials := { e.credentials with password := "" } } : Endpoint).values
      (Mark.ofString e.write) := by
  refine Record.form_write (by decide) fun i => ?_
  cases i with
  | transport => exact stringText_write _
  | host => exact stringText_write _
  | port => exact rfl
  | tenant => exact stringText_write _
  | credentials => exact e.credentials.form_write

/-- **An endpoint with some of the fields of another**: transport, host and port, and of the others
those of a set, the credentials with some of their fields. The rest is empty. -/
def overlay (set : Endpoint.Field → Bool) (inner : Credentials.Field → Bool) (e : Endpoint) :
    Endpoint where
  transport := e.transport
  host := e.host
  port := e.port
  tenant := if set .tenant then e.tenant else ""
  credentials := if set .credentials then e.credentials.overlay inner else ⟨"", "", ""⟩

/-- **An object that holds transport, host and port of an endpoint and some other fields is read as
these.** -/
theorem read_overlay {e : Endpoint} {set : Endpoint.Field → Bool} {inner : Credentials.Field → Bool}
    (transport : set .transport = true) (host : set .host = true) (port : set .port = true)
    {ms : List (String × Input)} {u : Input}
    (holds : record.Holds (Texts (Credentials.Part inner)) e.values set ms)
    (members : Members Quoted ms u) :
    Takes Endpoint.read (.char '{' :: (u ++ [.char '}'])) (e.overlay set inner) := by
  refine takes_form (.object (holds.fits (fun i t there text => ?_) fun i missing => ?_) members)
  · cases i with
    | transport => exact text
    | host => exact text
    | port => exact text
    | tenant =>
      have same : (e.overlay set inner).tenant = e.tenant := if_pos there
      change StringText (e.overlay set inner).tenant t
      rw [same]
      exact text
    | credentials =>
      have same : (e.overlay set inner).credentials = e.credentials.overlay inner := if_pos there
      change Credentials.record.Form _ (e.overlay set inner).credentials.values t
      rw [same]
      exact Credentials.Part.form text
  · have not_there : ¬set i = true := by
      rw [missing]
      exact Bool.false_ne_true
    cases i with
    | transport => exact absurd transport not_there
    | host => exact absurd host not_there
    | port => exact absurd port not_there
    | tenant => exact congrArg some (if_neg not_there).symm
    | credentials => exact congrArg some (if_neg not_there).symm

end Endpoint

/-! ### Overlay and round trip -/

/-- **What is left out of settings keeps its default, and what is written is read back.** Whatever
fields an object holds, in any order and among members of other names, the result is the default
overlaid with them: for settings, for the settings of the process log, and for an endpoint, of which
transport, host and port are there. What is written is read back, but for the password of an
endpoint. -/
theorem Settings.read_default_overlay :
    (∀ {s : Settings} {set : Settings.Field → Bool} {ms : List (String × Input)} {u b b' : Input},
      (Settings.record Value.maxDepth).Holds Settings.Texts s.values set ms → Members Quoted ms u →
      Blank b → Blank b' →
      (whole Settings.read).run (b ++ (.char '{' :: (u ++ [.char '}']) ++ b'))
        = .ok (s.overlay set)) ∧
    (∀ s : Settings, s.overlay (fun _ => false) = Settings.default ∧ s.overlay (fun _ => true) = s ∧
      (whole Settings.read).run (Mark.ofString s.write) = .ok s) ∧
    (∀ {s : LogSettings} {set : LogSettings.Field → Bool} {ms : List (String × Input)}
      {u b b' : Input}, LogSettings.record.Holds LogSettings.Texts s.values set ms →
      Members Quoted ms u → Blank b → Blank b' →
      (whole LogSettings.read).run (b ++ (.char '{' :: (u ++ [.char '}']) ++ b'))
        = .ok (s.overlay set)) ∧
    (∀ s : LogSettings, s.overlay (fun _ => false) = LogSettings.default ∧
      s.overlay (fun _ => true) = s ∧
      (whole LogSettings.read).run (Mark.ofString s.write) = .ok s) ∧
    (∀ {e : Endpoint} {set : Endpoint.Field → Bool} {inner : Credentials.Field → Bool}
      {ms : List (String × Input)} {u b b' : Input},
      set .transport = true → set .host = true → set .port = true →
      Endpoint.record.Holds (Endpoint.Texts (Credentials.Part inner)) e.values set ms →
      Members Quoted ms u → Blank b → Blank b' →
      (whole Endpoint.read).run (b ++ (.char '{' :: (u ++ [.char '}']) ++ b'))
        = .ok (e.overlay set inner)) ∧
    ∀ e : Endpoint, (whole Endpoint.read).run (Mark.ofString e.write)
      = .ok { e with credentials := { e.credentials with password := "" } } := by
  have alone : ∀ {α : Type} {read : Read α} {t : Input} {a : α}, Takes read t a →
      (whole read).run t = .ok a := by
    intro α read t a takes
    have read := takes.whole .nil .nil
    rwa [List.nil_append, List.append_nil] at read
  refine ⟨fun holds members before behind => ?_, fun s => ⟨rfl, rfl, ?_⟩,
    fun holds members before behind => ?_, fun s => ⟨rfl, rfl, ?_⟩,
    fun transport host port holds members before behind => ?_, fun e => ?_⟩
  · exact (Settings.read_overlay holds members).whole before behind
  · exact alone (Settings.takes_form s.form_write)
  · exact (LogSettings.read_overlay holds members).whole before behind
  · exact alone (LogSettings.takes_form s.form_write)
  · exact (Endpoint.read_overlay transport host port holds members).whole before behind
  · exact alone (Endpoint.takes_form e.form_write)

theorem Partitioning.form_behind :
    (random 3).Form (Mark.ofString (writeObject
      [("partitions", "3"), ("type", writeString "random")])) := by
  obtain ⟨u, members, text⟩ :=
    members_writeObject [("partitions", "3"), ("type", writeString "random")]
  rw [text]
  exact .behind (stringText_write _) members

theorem Credentials.part_username :
    (⟨"u", "", ""⟩ : Credentials).Part (fun i => decide (i = .username) || false)
      (Mark.ofString (writeObject [("username", writeString "u")])) := by
  obtain ⟨u, members, text⟩ := members_writeObject [("username", writeString "u")]
  have holds : Credentials.record.Holds Credentials.Texts (⟨"u", "", ""⟩ : Credentials).values _ _ :=
    Record.Holds.nil.field (by decide) Credentials.Field.username rfl (stringText_write "u")
  exact ⟨_, u, holds, members, text⟩

/-- Some fields in another order than that of the record, among members of other names. -/
theorem Settings.read_default_overlay_some :
    (whole Settings.read).run (Mark.ofString (writeObject
        [("x", "null"), ("partitioning", writeObject [("partitions", "3"), ("type", writeString "random")]),
          ("topic", writeString "t")]))
      = .ok { Settings.default with topic := "t", partitioning := .random 3 } ∧
    (whole LogSettings.read).run (Mark.ofString (writeObject [("developMode", "true"), ("x", "null")]))
      = .ok { LogSettings.default with develop := true } ∧
    (whole Endpoint.read).run (Mark.ofString (writeObject
        [("mqPort", "1"), ("auth", writeObject [("username", writeString "u")]),
          ("mqHost", writeString "h"), ("mqType", writeString "nats")]))
      = .ok ⟨"nats", "h", 1, "", ⟨"u", "", ""⟩⟩ := by
  have nothing : ValueText (Mark.ofString "null") := .null
  refine ⟨?_, ?_, ?_⟩
  · obtain ⟨u, members, text⟩ := members_writeObject [("x", "null"), ("partitioning", writeObject
      [("partitions", "3"), ("type", writeString "random")]), ("topic", writeString "t")]
    have holds : (Settings.record Value.maxDepth).Holds Settings.Texts
        (Settings.values { Settings.default with topic := "t", partitioning := .random 3 }) _ _ :=
      (((Record.Holds.nil.field (by decide) Settings.Field.topic rfl (stringText_write "t")).field
        (by decide) Settings.Field.partitioning rfl Partitioning.form_behind).other
          "x" (fun i => by cases i <;> decide) nothing)
    have read := Settings.read_default_overlay.1 holds members .nil .nil
    rw [List.nil_append, List.append_nil, ← text] at read
    exact read
  · obtain ⟨u, members, text⟩ := members_writeObject [("developMode", "true"), ("x", "null")]
    have holds : LogSettings.record.Holds LogSettings.Texts
        (LogSettings.values { LogSettings.default with develop := true }) _ _ :=
      (Record.Holds.nil.other "x" (fun i => by cases i <;> decide) nothing).field (by decide)
        LogSettings.Field.develop rfl (t := Mark.ofString "true") rfl
    have read := Settings.read_default_overlay.2.2.1 holds members .nil .nil
    rw [List.nil_append, List.append_nil, ← text] at read
    exact read
  · obtain ⟨u, members, text⟩ := members_writeObject [("mqPort", "1"),
      ("auth", writeObject [("username", writeString "u")]), ("mqHost", writeString "h"),
      ("mqType", writeString "nats")]
    have holds : Endpoint.record.Holds (Endpoint.Texts (Credentials.Part _))
        (Endpoint.values ⟨"nats", "h", 1, "", ⟨"u", "", ""⟩⟩) _ _ :=
      (((Record.Holds.nil.field (by decide) Endpoint.Field.transport rfl (stringText_write "nats")).field
        (by decide) Endpoint.Field.host rfl (stringText_write "h")).field
        (by decide) Endpoint.Field.credentials rfl Credentials.part_username).field
        (by decide) Endpoint.Field.port rfl (t := Mark.ofString "1") rfl
    have read := Settings.read_default_overlay.2.2.2.2.1 rfl rfl rfl holds members .nil .nil
    rw [List.nil_append, List.append_nil, ← text] at read
    exact read

end AuditRelay
