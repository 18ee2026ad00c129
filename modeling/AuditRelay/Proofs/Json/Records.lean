import AuditRelay.Proofs.Json.Skimming
import Mathlib.Data.List.Induction
import Mathlib.Data.List.Nodup

/-!
# Reading records

A record is read from an object member by member, into a draft that gains the field of the member
(`Record.members_member`), and so over any number of members (`Record.members_separated`), or from a
list item by item (`Record.positions_separated`). What comes behind these members or items decides:
the closing bracket completes the record or shows that a field is missing; another member may be a
field that is there already, or hold no value.

* `Record.takes_form` : every text of a record is taken, if the texts of its fields are.
* `Record.refuses_flawed` : every flawed text is refused, if those of its fields are.

Tables of texts (`takes_textMap`) and names (`takes_variant`) are read in the same way.
-/

namespace AuditRelay.Json

variable {α : Type}

/-! ### Commas, colons and brackets -/

theorem nextKey_skip (first : Bool) {s : Input} (blank : Blank s) (rest : Input) :
    nextKey first (s ++ rest) = nextKey first rest :=
  bind_peek _ blank rest

theorem nextItem_skip (first : Bool) {s : Input} (blank : Blank s) (rest : Input) :
    nextItem first (s ++ rest) = nextItem first rest :=
  bind_peek _ blank rest

theorem nextKey_first (rest : Input) :
    nextKey true (.char '\"' :: rest) = .ok (true, .char '\"' :: rest) := rfl

theorem nextKey_comma {s : Input} (blank : Blank s) (rest : Input) :
    nextKey false (.char ',' :: (s ++ .char '\"' :: rest)) = .ok (true, .char '\"' :: rest) := by
  rw [nextKey, bind_ok (peek_next rfl _)]
  simp only [Bool.false_eq_true, if_false]
  rw [bind_ok (advance_cons _ _), bind_ok (peek_blank blank rfl _)]
  rfl

theorem nextKey_end (first : Bool) (rest : Input) :
    nextKey first (.char '}' :: rest) = .ok (false, .char '}' :: rest) := rfl

theorem nextItem_first {t : Input} (visible : Visible t) (rest : Input) :
    nextItem true (t ++ rest) = .ok (true, t ++ rest) := by
  obtain ⟨m, u, rfl, space, bracket⟩ := visible
  rw [List.cons_append, nextItem, bind_ok (peek_next space _)]
  by_cases comma : m = .char ','
  · rw [comma]
    rfl
  · simp only [if_true]
    rfl

theorem nextItem_comma {s t : Input} (blank : Blank s) (visible : Visible t) (rest : Input) :
    nextItem false (.char ',' :: (s ++ (t ++ rest))) = .ok (true, t ++ rest) := by
  obtain ⟨m, u, rfl, space, bracket⟩ := visible
  rw [nextItem, bind_ok (peek_next rfl _), List.cons_append]
  simp only [Bool.false_eq_true, if_false]
  rw [bind_ok (advance_cons _ _), bind_ok (peek_blank blank space _)]
  simp only
  rfl

theorem nextItem_end (first : Bool) (rest : Input) :
    nextItem first (.char ']' :: rest) = .ok (false, .char ']' :: rest) := rfl

theorem key_quoted {name : String} {k : Input} (quoted : Quoted name k) (rest : Input) :
    key (.char '\"' :: (k ++ .char '\"' :: rest)) = .ok (name, rest) := by
  rw [key, bind_ok (advance_cons _ _)]
  exact text_quoted quoted rest

theorem colon_blank {s : Input} (blank : Blank s) (rest : Input) :
    colon (s ++ .char ':' :: rest) = .ok ((), rest) := by
  rw [colon, bind_ok (peek_blank blank rfl _)]
  rfl

theorem endObject_close (rest : Input) : endObject (.char '}' :: rest) = .ok ((), rest) := rfl

theorem endList_close (rest : Input) : endList (.char ']' :: rest) = .ok ((), rest) := rfl

/-- The first member of an object comes next. -/
theorem Member.next_first {m : String × Input} {t : Input} (member : Member Quoted m t) {s : Input}
    (blank : Blank s) (rest : Input) : nextKey true (s ++ (t ++ rest)) = .ok (true, t ++ rest) := by
  obtain ⟨_, _, _⟩ := member
  rw [nextKey_skip true blank]
  exact nextKey_first _

/-- A member that follows others comes next. -/
theorem Member.next_comma {m : String × Input} {t : Input} (member : Member Quoted m t)
    {s s' : Input} (before : Blank s) (behind : Blank s') (rest : Input) :
    nextKey false (s ++ .char ',' :: (s' ++ (t ++ rest))) = .ok (true, t ++ rest) := by
  obtain ⟨_, _, _⟩ := member
  rw [nextKey_skip false before]
  exact nextKey_comma behind _

/-- The key of a member is read, and then come the colon and the value. -/
theorem Member.key_read {m : String × Input} {t : Input} (member : Member Quoted m t) :
    ∃ s s', Blank s ∧ Blank s' ∧
      ∀ rest, key (t ++ rest) = .ok (m.1, s ++ .char ':' :: (s' ++ (m.2 ++ rest))) := by
  cases member with
  | @member k s s' name before behind =>
    refine ⟨s, s', before, behind, fun rest => ?_⟩
    have shape : .char '\"' :: (k ++ .char '\"' :: (s ++ .char ':' :: (s' ++ m.2))) ++ rest
        = .char '\"' :: (k ++ .char '\"' :: (s ++ .char ':' :: (s' ++ (m.2 ++ rest)))) := by
      simp only [List.cons_append, List.append_assoc]
    rw [shape]
    exact key_quoted name _

/-! ### Members and items behind one another -/

theorem Behind.length_le {ts : List Input} {u : Input} (behind : Behind ts u) :
    ts.length ≤ u.length := by
  induction behind with
  | nil _ => exact Nat.zero_le _
  | cons _ _ _ ih =>
    simp only [List.length_cons, List.length_append]
    omega

theorem Separated.length_le {ts : List Input} {u : Input} (separated : Separated ts u) :
    ts.length ≤ u.length + 1 := by
  cases separated with
  | nil _ => exact Nat.zero_le _
  | cons _ behind =>
    have := behind.length_le
    simp only [List.length_cons, List.length_append]
    omega

/-- What comes before an item that follows others. -/
def comma : List Input → Input
  | [] => []
  | _ :: _ => [.char ',']

/-- An item that follows others, and what comes before it. -/
theorem Behind.split {ts : List Input} {t : Input} {ts' : List Input} {u : Input}
    (behind : Behind (ts ++ t :: ts') u) :
    ∃ u' s w, Behind ts u' ∧ Blank s ∧ u = u' ++ .char ',' :: (s ++ (t ++ w)) := by
  induction ts generalizing u with
  | nil =>
    cases behind with
    | cons before after _ => exact ⟨_, _, _, .nil before, after, rfl⟩
  | cons t' ts ih =>
    cases behind with
    | cons before after rest =>
      obtain ⟨u', s, w, behind', blank, rfl⟩ := ih rest
      refine ⟨_, s, w, .cons before after behind', blank, ?_⟩
      simp only [List.append_assoc, List.cons_append]

/-- An item, and what comes before it. -/
theorem Separated.split {ts : List Input} {t : Input} {ts' : List Input} {u : Input}
    (separated : Separated (ts ++ t :: ts') u) :
    ∃ u' s w, Separated ts u' ∧ Blank s ∧ u = u' ++ (comma ts ++ (s ++ (t ++ w))) := by
  cases ts with
  | nil =>
    cases separated with
    | cons before _ => exact ⟨_, [], _, .nil before, .nil, rfl⟩
  | cons t' ts =>
    cases separated with
    | cons before rest =>
      obtain ⟨u', s, w, behind, blank, rfl⟩ := Behind.split rest
      refine ⟨_, s, w, .cons before behind, blank, ?_⟩
      simp only [comma, List.append_assoc, List.cons_append, List.nil_append]

theorem forall₂_split {β γ : Type} {R : β → γ → Prop} {l : List β} {b : β} {l₁ : List β}
    {l' : List γ} (h : List.Forall₂ R (l ++ b :: l₁) l') :
    ∃ l'' c l₂, List.Forall₂ R l l'' ∧ R b c ∧ l' = l'' ++ c :: l₂ := by
  induction l generalizing l' with
  | nil =>
    cases h with
    | cons first rest => exact ⟨[], _, _, .nil, first, rfl⟩
  | cons b' l ih =>
    cases h with
    | cons first rest =>
      obtain ⟨l'', c, l₂, init, last, rfl⟩ := ih rest
      exact ⟨_, c, l₂, .cons first init, last, rfl⟩

/-- A member, and what comes before it. -/
theorem Members.split {κ : Type} {names : κ → Input → Prop} {ms : List (κ × Input)}
    {m : κ × Input} {ms' : List (κ × Input)} {u : Input} (members : Members names (ms ++ m :: ms') u) :
    ∃ ts u' s t w, List.Forall₂ (Member names) ms ts ∧ Separated ts u' ∧ Blank s ∧
      Member names m t ∧ u = u' ++ (comma ts ++ (s ++ (t ++ w))) := by
  obtain ⟨_, hts, separated⟩ := members
  obtain ⟨ts, t, _, init, last, rfl⟩ := forall₂_split hts
  obtain ⟨u', s, w, separated', blank, rfl⟩ := separated.split
  exact ⟨ts, u', s, t, w, init, separated', blank, last, rfl⟩

/-- What is left of a text bounds the members that are still to come. -/
theorem room_separated {ts : List Input} {u w : Input} (separated : Separated ts u) (more : w ≠ []) :
    ∃ fuel, room (u ++ w) = .ok (fuel + 1 + ts.length, u ++ w) := by
  have items := separated.length_le
  have some_mark : 0 < w.length := List.length_pos_iff.mpr more
  refine ⟨(u ++ w).length - ts.length, ?_⟩
  have enough : (u ++ w).length + 1 = (u ++ w).length - ts.length + 1 + ts.length := by
    rw [List.length_append]
    omega
  rw [room, enough]

/-! ### The fields of a record -/

namespace Record

variable {ι : Type} [DecidableEq ι] {r : Record ι} {texts : r.Texts}

/-- A name that no two fields share finds its field. -/
theorem field?_name (names : (r.fields.map r.name).Nodup) (i : ι) :
    r.field? (r.name i) = some i := by
  cases h : r.field? (r.name i) with
  | none =>
    have hno := List.find?_eq_none.mp h i (r.complete i)
    simp at hno
  | some j =>
    have hj : r.name j = r.name i := by simpa using List.find?_some h
    rw [List.inj_on_of_nodup_map names (r.complete j) (r.complete i) hj]

theorem field?_other {name : String} (other : ∀ i, name ≠ r.name i) : r.field? name = none :=
  List.find?_eq_none.mpr fun i _ same => other i (beq_iff_eq.mp same).symm

theorem Draft.set_self (d : r.Draft) (i : ι) (v : r.type i) : d.set i v i = some v := by
  simp [Draft.set]

theorem Draft.set_ne (d : r.Draft) {i j : ι} (ne : i ≠ j) (v : r.type i) : d.set i v j = d j := by
  simp [Draft.set, ne]

/-- A draft that gains some fields, with values of which there are texts, and no others. -/
structure Gains (texts : r.Texts) (some_field : ι → Prop) (d d' : r.Draft) : Prop where
  inside : ∀ i, some_field i → ∃ a t, d' i = some a ∧ texts i a t
  outside : ∀ i, ¬some_field i → d' i = d i

theorem Gains.refl {p : ι → Prop} (none_of : ∀ i, ¬p i) (d : r.Draft) : r.Gains texts p d d :=
  ⟨fun i hi => absurd hi (none_of i), fun _ _ => rfl⟩

theorem Gains.set {i : ι} {a : r.type i} {t : Input} (text : texts i a t) {p : ι → Prop}
    (only : ∀ j, p j ↔ j = i) (d : r.Draft) : r.Gains texts p d (d.set i a) := by
  refine ⟨fun j hj => ?_, fun j hj => ?_⟩
  · obtain rfl := (only j).mp hj
    exact ⟨a, t, d.set_self j a, text⟩
  · exact d.set_ne (fun same => hj ((only j).mpr same.symm)) a

theorem Gains.trans {p q p' : ι → Prop} {d d₁ d' : r.Draft} (first : r.Gains texts p d d₁)
    (second : r.Gains texts q d₁ d') (both : ∀ i, p' i ↔ p i ∨ q i) : r.Gains texts p' d d' := by
  refine ⟨fun i hi => ?_, fun i hi => ?_⟩
  · by_cases later : q i
    · exact second.inside i later
    · rw [second.outside i later]
      exact first.inside i (((both i).mp hi).resolve_right later)
  · rw [second.outside i fun h => hi ((both i).mpr (Or.inr h))]
    exact first.outside i fun h => hi ((both i).mpr (Or.inl h))

/-- A draft in which nothing is missing is complete. -/
theorem complete?_eq {v : r.Full} {d : r.Draft} (full : ∀ i, (d i).or (r.absent i) = some (v i)) :
    r.complete? d = .ok v := by
  unfold complete?
  split
  · next i hfind =>
    -- a field that is lacking has no value
    have hlacks := List.find?_some hfind
    simp only [lacks, Bool.and_eq_true, Option.isNone_iff_eq_none] at hlacks
    have hfull := full i
    rw [hlacks.1, hlacks.2] at hfull
    cases hfull
  · exact congrArg Except.ok (funext fun i => Option.get_of_mem _ (full i))

theorem complete?_lacking {d : r.Draft} {i : ι} (first : r.fields.find? (r.lacks d) = some i) :
    r.complete? d = .error (r.name i) := by
  unfold complete?
  split
  · next j hfind =>
    obtain rfl := Option.some.inj (first.symm.trans hfind)
    rfl
  · next hfind => cases first.symm.trans hfind

/-! ### Objects -/

/-- Members that may be the first ones of a record: the fields among them have values, and none of
them comes twice. -/
structure Begun (r : Record ι) (texts : r.Texts) (ms : List (String × Input)) : Prop where
  fields : ∀ m ∈ ms, ∀ i, m.1 = r.name i → ∃ a, texts i a m.2
  others : ∀ m ∈ ms, (∀ i, m.1 ≠ r.name i) → ValueText m.2
  once : ∀ i, (ms.map (·.1)).count (r.name i) ≤ 1

/-- Whether a field is missing among members of some names. -/
def misses (r : Record ι) (names : List String) (i : ι) : Bool :=
  !names.contains (r.name i) && (r.absent i).isNone

theorem members_skip (d : r.Draft) (fuel : Nat) (first : Bool) {s : Input} (blank : Blank s)
    (rest : Input) :
    r.members (fuel + 1) first d (s ++ rest) = r.members (fuel + 1) first d rest :=
  bind_congr _ (nextKey_skip first blank rest)

theorem members_end (d : r.Draft) (fuel : Nat) (first : Bool) (rest : Input) :
    r.members (fuel + 1) first d (.char '}' :: rest) = .ok (d, .char '}' :: rest) := by
  rw [members, bind_ok (nextKey_end first rest)]
  rfl

section

variable (names : (r.fields.map r.name).Nodup)
  (reads : ∀ i a t, texts i a t → Takes (r.read i) t a)

include names reads

omit names reads in
theorem Fits.begun {v : r.Full} {ms : List (String × Input)} (fits : r.Fits texts v ms) :
    r.Begun (fun i a t => a = v i ∧ texts i a t) ms where
  fields m hm i hi := ⟨v i, rfl, fits.fields m hm i hi⟩
  others := fits.others
  once := fits.once

/-- **One member**: the draft gains its field, if it has the name of one, and otherwise the value is
passed over. -/
theorem members_member {m : String × Input} {t : Input} (member : Member Quoted m t)
    (field : ∀ i, m.1 = r.name i → ∃ a, texts i a m.2)
    (other : (∀ i, m.1 ≠ r.name i) → ValueText m.2) {d : r.Draft}
    (new : ∀ i, m.1 = r.name i → d i = none) {first : Bool} {input rest : Input}
    (next : nextKey first input = .ok (true, t ++ rest)) (ends : Ends rest) (fuel : Nat) :
    ∃ d', r.Gains texts (fun i => r.name i = m.1) d d' ∧
      r.members (fuel + 1) first d input = r.members fuel false d' rest := by
  obtain ⟨s, s', before, behind, read⟩ := member.key_read
  rw [members, bind_ok next]
  simp only [if_true]
  rw [bind_ok (read rest)]
  by_cases known : ∃ i, m.1 = r.name i
  · obtain ⟨i, hi⟩ := known
    obtain ⟨a, text⟩ := field i hi
    -- it is not the second time that the field is read
    have unset : ¬(d i).isSome = true := by
      rw [new i hi]
      exact Bool.false_ne_true
    have only : ∀ j, r.name j = m.1 ↔ j = i := fun j =>
      ⟨fun h => List.inj_on_of_nodup_map names (r.complete j) (r.complete i) (h.trans hi),
        fun h => by rw [h, hi]⟩
    refine ⟨d.set i a, .set text only d, ?_⟩
    simp only [hi, field?_name names i, if_neg unset]
    rw [bind_ok (colon_blank before _), bind_ok ((reads i a _ text).taken behind ends)]
  · have unknown : ∀ i, m.1 ≠ r.name i := fun i hi => known ⟨i, hi⟩
    refine ⟨d, .refl (fun i hi => unknown i hi.symm) d, ?_⟩
    simp only [field?_other unknown]
    rw [bind_ok (colon_blank before _), bind_ok ((takes_skim (other unknown)).taken behind ends)]

omit names reads in
theorem Begun.tail {m : String × Input} {ms : List (String × Input)}
    (begun : r.Begun texts (m :: ms)) : r.Begun texts ms where
  fields m' hm' := begun.fields m' (List.mem_cons_of_mem _ hm')
  others m' hm' := begun.others m' (List.mem_cons_of_mem _ hm')
  once i := Nat.le_trans (by rw [List.map_cons]; exact List.count_le_count_cons) (begun.once i)

omit names reads in
/-- The field of the first member does not come again. -/
theorem Begun.head {m : String × Input} {ms : List (String × Input)}
    (begun : r.Begun texts (m :: ms)) {i : ι} (hi : r.name i = m.1) :
    r.name i ∉ ms.map (·.1) := by
  intro again
  have twice := begun.once i
  rw [List.map_cons, ← hi, List.count_cons_self] at twice
  have := List.count_pos_iff.mpr again
  omega

/-- Members that follow others. -/
theorem members_behind {ms : List (String × Input)} {ts : List Input}
    (members : List.Forall₂ (Member Quoted) ms ts) {u : Input} (behind : Behind ts u)
    (begun : r.Begun texts ms) {d : r.Draft} (new : ∀ i, r.name i ∈ ms.map (·.1) → d i = none)
    (fuel : Nat) {rest : Input} (ends : Ends rest) :
    ∃ d', r.Gains texts (fun i => r.name i ∈ ms.map (·.1)) d d' ∧
      r.members (fuel + 1 + ms.length) false d (u ++ rest) = r.members (fuel + 1) false d' rest := by
  induction members generalizing u d with
  | nil =>
    cases behind with
    | nil blank =>
      exact ⟨d, .refl (fun i => List.not_mem_nil) d, members_skip d fuel false blank rest⟩
  | @cons m t ms ts member others ih =>
    cases behind with
    | @cons _ s s' u _ before after behind =>
      have next : nextKey false (s ++ .char ',' :: (s' ++ (t ++ u)) ++ rest)
          = .ok (true, t ++ (u ++ rest)) := by
        simp only [List.cons_append, List.append_assoc]
        exact member.next_comma before after _
      obtain ⟨d₁, gains, step⟩ := members_member names reads member
        (fun i hi => begun.fields m List.mem_cons_self i hi)
        (fun unknown => begun.others m List.mem_cons_self unknown)
        (fun i hi => new i (by rw [← hi]; exact List.mem_cons_self)) next (behind.ends ends)
        (fuel + 1 + ms.length)
      have new₁ : ∀ i, r.name i ∈ ms.map (·.1) → d₁ i = none := fun i hi => by
        rw [gains.outside i fun h => begun.head h hi]
        exact new i (List.mem_cons_of_mem _ hi)
      obtain ⟨d', gains', run⟩ := ih behind begun.tail new₁
      exact ⟨d', gains.trans gains' fun i => List.mem_cons, step.trans run⟩

/-- **Members of a record that have begun**: the draft gains the fields among them, and what comes
behind them is still to be read. -/
theorem members_separated {ms : List (String × Input)} {ts : List Input}
    (members : List.Forall₂ (Member Quoted) ms ts) {u : Input} (separated : Separated ts u)
    (begun : r.Begun texts ms) {w : Input} (more : w ≠ []) (ends : ts ≠ [] → Ends w) :
    ∃ fuel count d, r.Gains texts (fun i => r.name i ∈ ms.map (·.1)) r.blank d ∧
      room (u ++ w) = .ok (fuel, u ++ w) ∧
      r.members fuel true r.blank (u ++ w) = r.members (count + 1) ts.isEmpty d w := by
  obtain ⟨count, hroom⟩ := room_separated separated more
  cases members with
  | nil =>
    cases separated with
    | nil blank =>
      exact ⟨_, count, r.blank, .refl (fun i => List.not_mem_nil) _, hroom,
        members_skip r.blank count true blank w⟩
  | @cons m t ms ts member others =>
    cases separated with
    | @cons _ s u _ blank behind =>
      have next : nextKey true (s ++ (t ++ u) ++ w) = .ok (true, t ++ (u ++ w)) := by
        rw [List.append_assoc, List.append_assoc]
        exact member.next_first blank _
      have ends' := ends (List.cons_ne_nil _ _)
      obtain ⟨d₁, gains, step⟩ := members_member names reads member
        (fun i hi => begun.fields m List.mem_cons_self i hi)
        (fun unknown => begun.others m List.mem_cons_self unknown)
        (fun i _ => rfl) next (behind.ends ends') (count + 1 + ts.length)
      obtain ⟨d', gains', run⟩ := members_behind names reads others behind begun.tail
        (fun i hi => gains.outside i fun h => begun.head h hi) count ends'
      rw [others.length_eq] at run
      exact ⟨_, count, d', gains.trans gains' fun i => List.mem_cons, hroom, step.trans run⟩

/-- **An object in which every field has a value, or one for being absent, is read.** -/
theorem readObject_fits {v : r.Full} {ms : List (String × Input)} {u : Input}
    (fits : r.Fits texts v ms) (members : Members Quoted ms u) (rest : Input) :
    r.readObject (u ++ .char '}' :: rest) = .ok (v, rest) := by
  obtain ⟨ts, hts, separated⟩ := members
  obtain ⟨fuel, count, d, gains, hroom, run⟩ := members_separated names
    (fun i a t text => reads i a t text.2) hts separated fits.begun (List.cons_ne_nil _ _)
    fun _ => .objectEnd rest
  have full : ∀ i, (d i).or (r.absent i) = some (v i) := by
    intro i
    by_cases there : r.name i ∈ ms.map (·.1)
    · obtain ⟨a, t, value, rfl, -⟩ := gains.inside i there
      rw [value, Option.some_or]
    · rw [gains.outside i there, fits.absent i there]
      rfl
  rw [readObject, bind_ok hroom, bind_ok (run.trans (members_end d count _ rest)), complete?_eq full]
  simp only
  rw [bind_ok (endObject_close rest)]
  rfl

/-- **An object is refused at the first field that is there already** or of which no value is
read. -/
theorem readObject_flaw {ms ms' : List (String × Input)} {m : String × Input} {u : Input} {i : ι}
    (begun : r.Begun texts ms) (name : m.1 = r.name i)
    (flaw : r.name i ∈ ms.map (·.1) ∨ r.name i ∉ ms.map (·.1) ∧ Refuses (r.read i) m.2)
    (members : Members Quoted (ms ++ m :: ms') u) (rest : Input) :
    ∃ mm left, r.readObject (u ++ rest) = .error ⟨.mismatch mm, left⟩ := by
  obtain ⟨ts, u, s, t, w, hts, separated, blank, member, rfl⟩ := members.split
  have shape : u ++ (comma ts ++ (s ++ (t ++ w))) ++ rest
      = u ++ (comma ts ++ (s ++ (t ++ (w ++ rest)))) := by
    simp only [List.append_assoc]
  have more : comma ts ++ (s ++ (t ++ (w ++ rest))) ≠ [] := by
    obtain ⟨_, _, _⟩ := member
    simp
  obtain ⟨fuel, count, d, gains, hroom, run⟩ := members_separated names reads hts separated begun more
    fun some => by
      cases ts with
      | nil => exact absurd rfl some
      | cons _ _ => exact .comma _
  have next : nextKey ts.isEmpty (comma ts ++ (s ++ (t ++ (w ++ rest)))) = .ok (true, t ++ (w ++ rest)) := by
    cases ts with
    | nil => exact member.next_first blank _
    | cons _ _ => exact member.next_comma .nil blank _
  obtain ⟨s₁, s₂, before, behind, read⟩ := member.key_read
  have stopped : ∃ mm left, r.members (count + 1) ts.isEmpty d
      (comma ts ++ (s ++ (t ++ (w ++ rest)))) = .error ⟨.mismatch mm, left⟩ := by
    rw [Record.members, bind_ok next]
    simp only [if_true]
    rw [bind_ok (read (w ++ rest))]
    rcases flaw with again | ⟨new, flaw⟩
    · obtain ⟨a, t, value, -⟩ := gains.inside i again
      simp only [name, field?_name names i, value, Option.isSome_some, if_true]
      exact ⟨_, _, rfl⟩
    · have unset : ¬(d i).isSome = true := by
        rw [gains.outside i new]
        exact Bool.false_ne_true
      obtain ⟨mm, left, refused⟩ := flaw.refused behind (w ++ rest)
      simp only [name, field?_name names i, if_neg unset]
      rw [bind_ok (colon_blank before _), bind_error _ refused]
      exact ⟨_, _, rfl⟩
  obtain ⟨mm, left, stopped⟩ := stopped
  refine ⟨mm, left, ?_⟩
  rw [shape, readObject, bind_ok hroom, bind_error _ (run.trans stopped)]

/-- **An object without one of the fields is refused** at its end. -/
theorem readObject_missing {ms : List (String × Input)} {u : Input} {i : ι}
    (begun : r.Begun texts ms) (members : Members Quoted ms u)
    (first : r.fields.find? (r.misses (ms.map (·.1))) = some i) (rest : Input) :
    ∃ left, r.readObject (u ++ .char '}' :: rest)
      = .error ⟨.mismatch (.missingField (r.name i)), left⟩ := by
  obtain ⟨ts, hts, separated⟩ := members
  obtain ⟨fuel, count, d, gains, hroom, run⟩ := members_separated names reads hts separated begun
    (List.cons_ne_nil _ _) fun _ => .objectEnd rest
  have same : r.lacks d = r.misses (ms.map (·.1)) := by
    funext j
    by_cases there : r.name j ∈ ms.map (·.1)
    · obtain ⟨a, t, value, -⟩ := gains.inside j there
      rw [lacks, misses, value, List.contains_iff_mem.mpr there]
      rfl
    · rw [lacks, misses, gains.outside j there,
        Bool.eq_false_iff.mpr (fun h => there (List.contains_iff_mem.mp h))]
      rfl
  rw [readObject, bind_ok hroom, bind_ok (run.trans (members_end d count _ rest)),
    complete?_lacking (same ▸ first)]
  exact ⟨_, rfl⟩

end

/-! ### Lists -/

section

variable (reads : ∀ i a t, texts i a t → Takes (r.read i) t a)

include reads

/-- **One item**: the draft gains the field whose turn it is. -/
theorem positions_item {i : ι} {t : Input} (value : ∃ a, texts i a t) (after : List ι) (count : Nat)
    (d : r.Draft) {input rest : Input} (next : nextItem (count == 0) input = .ok (true, t ++ rest))
    (ends : Ends rest) :
    ∃ d', r.Gains texts (· = i) d d' ∧
      r.positions (i :: after) count d input = r.positions after (count + 1) d' rest := by
  obtain ⟨a, text⟩ := value
  refine ⟨d.set i a, .set text (fun j => Iff.rfl) d, ?_⟩
  rw [positions, bind_ok next]
  simp only [if_true]
  have taken := (reads i a t text).taken .nil ends
  rw [List.nil_append] at taken
  rw [bind_ok taken]

/-- Items that follow others. -/
theorem positions_behind {before : List ι} {f : ι → Input} {u : Input}
    (behind : Behind (before.map f) u) (fields : ∀ i ∈ before, ∃ a, texts i a (f i))
    (after : List ι) (count : Nat) (d : r.Draft) {rest : Input} (ends : Ends rest) :
    ∃ d' s, r.Gains texts (· ∈ before) d d' ∧ Blank s ∧
      r.positions (before ++ after) (count + 1) d (u ++ rest)
        = r.positions after (count + before.length + 1) d' (s ++ rest) := by
  induction before generalizing u count d with
  | nil =>
    cases behind with
    | nil blank => exact ⟨d, u, .refl (fun i => List.not_mem_nil) d, blank, rfl⟩
  | cons i before ih =>
    cases behind with
    | @cons _ s s' u _ blank blank' behind =>
      obtain ⟨a, text⟩ := fields i List.mem_cons_self
      have next : nextItem false (s ++ .char ',' :: (s' ++ (f i ++ u)) ++ rest)
          = .ok (true, f i ++ (u ++ rest)) := by
        rw [List.append_assoc, nextItem_skip false blank, List.cons_append, List.append_assoc,
          List.append_assoc]
        exact nextItem_comma blank' (reads i a _ text).visible _
      obtain ⟨d₁, gains, step⟩ := positions_item reads ⟨a, text⟩ (before ++ after)
        (count + 1) d next (behind.ends ends)
      obtain ⟨d', s, gains', blank, run⟩ := ih behind
        (fun j hj => fields j (List.mem_cons_of_mem _ hj)) (count + 1) d₁
      refine ⟨d', s, gains.trans gains' fun j => List.mem_cons, blank, ?_⟩
      rw [List.length_cons, ← Nat.add_assoc, Nat.add_right_comm count before.length 1]
      exact step.trans run

/-- **The first items of a list**: the draft gains the fields that they are, and what comes behind
them is still to be read. -/
theorem positions_separated {before : List ι} {f : ι → Input} {u : Input}
    (separated : Separated (before.map f) u) (fields : ∀ i ∈ before, ∃ a, texts i a (f i))
    (after : List ι) {w : Input} (ends : before ≠ [] → Ends w) :
    ∃ d s, r.Gains texts (· ∈ before) r.blank d ∧ Blank s ∧
      r.positions (before ++ after) 0 r.blank (u ++ w)
        = r.positions after before.length d (s ++ w) := by
  cases before with
  | nil =>
    cases separated with
    | nil blank => exact ⟨r.blank, u, .refl (fun i => List.not_mem_nil) _, blank, rfl⟩
  | cons i before =>
    cases separated with
    | @cons _ s u _ blank behind =>
      obtain ⟨a, text⟩ := fields i List.mem_cons_self
      have ends' := ends (List.cons_ne_nil _ _)
      have next : nextItem true (s ++ (f i ++ u) ++ w) = .ok (true, f i ++ (u ++ w)) := by
        rw [List.append_assoc, nextItem_skip true blank, List.append_assoc]
        exact nextItem_first (reads i a _ text).visible _
      obtain ⟨d₁, gains, step⟩ := positions_item reads ⟨a, text⟩ (before ++ after) 0
        r.blank next (behind.ends ends')
      obtain ⟨d', s', gains', blank', run⟩ := positions_behind reads behind
        (fun j hj => fields j (List.mem_cons_of_mem _ hj)) after 0 d₁ ends'
      refine ⟨d', s', gains.trans gains' fun j => List.mem_cons, blank', ?_⟩
      rw [Nat.zero_add before.length] at run
      exact step.trans run

omit reads in
/-- Fields that are left over all have their values for being absent. -/
theorem positions_absent {v : r.Full} {after : List ι}
    (absent : ∀ i ∈ after, r.absent i = some (v i)) (count : Nat) (d : r.Draft) (s : Input) :
    ∃ d', r.Gains (fun i a _ => a = v i) (· ∈ after) d d' ∧
      positions.endOfItems r after d count s = .ok (d', s) := by
  induction after generalizing count d with
  | nil => exact ⟨d, .refl (fun i => List.not_mem_nil) d, rfl⟩
  | cons i after ih =>
    obtain ⟨d', gains, run⟩ := ih (fun j hj => absent j (List.mem_cons_of_mem _ hj)) (count + 1)
      (d.set i (v i))
    have first : r.Gains (fun i a _ => a = v i) (· = i) d (d.set i (v i)) :=
      .set (t := []) rfl (fun j => Iff.rfl) d
    refine ⟨d', first.trans gains fun j => List.mem_cons, ?_⟩
    rw [positions.endOfItems, absent i List.mem_cons_self]
    exact run

omit reads in
/-- The end of a list whose other fields may be absent. -/
theorem positions_end {v : r.Full} {after : List ι}
    (absent : ∀ i ∈ after, r.absent i = some (v i)) (count : Nat) (d : r.Draft) {s : Input}
    (blank : Blank s) (rest : Input) :
    ∃ d' s', r.Gains (fun i a _ => a = v i) (· ∈ after) d d' ∧ Blank s' ∧
      r.positions after count d (s ++ .char ']' :: rest) = .ok (d', s' ++ .char ']' :: rest) := by
  cases after with
  | nil => exact ⟨d, s, .refl (fun i => List.not_mem_nil) d, blank, rfl⟩
  | cons i after =>
    obtain ⟨d', gains, run⟩ := positions_absent
      (fun j hj => absent j (List.mem_cons_of_mem _ hj)) (count + 1) (d.set i (v i))
      (.char ']' :: rest)
    have first : r.Gains (fun i a _ => a = v i) (· = i) d (d.set i (v i)) :=
      .set (t := []) rfl (fun j => Iff.rfl) d
    refine ⟨d', [], first.trans gains fun j => List.mem_cons, .nil, ?_⟩
    rw [positions, bind_ok ((nextItem_skip _ blank _).trans (nextItem_end _ rest))]
    simp only [Bool.false_eq_true, if_false, absent i List.mem_cons_self]
    exact run

/-- **A list of the fields is read**; those that may be absent may be left out at its end. -/
theorem readList_items {v : r.Full} {before after : List ι} {f : ι → Input} {u : Input}
    (order : r.fields = before ++ after) (fields : ∀ i ∈ before, texts i (v i) (f i))
    (absent : ∀ i ∈ after, r.absent i = some (v i)) (items : Separated (before.map f) u)
    (rest : Input) : r.readList (u ++ .char ']' :: rest) = .ok (v, rest) := by
  have reads' : ∀ i a t, (a = v i ∧ texts i a t) → Takes (r.read i) t a := fun i a t text =>
    reads i a t text.2
  obtain ⟨d, s, gains, blank, run⟩ := positions_separated reads' items
    (fun i hi => ⟨v i, rfl, fields i hi⟩) after fun _ => .listEnd rest
  obtain ⟨d', s', gains', blank', stop⟩ := positions_end absent before.length d blank rest
  have full : ∀ i, (d' i).or (r.absent i) = some (v i) := by
    intro i
    have value : d' i = some (v i) := by
      by_cases late : i ∈ after
      · obtain ⟨a, _, value, rfl⟩ := gains'.inside i late
        exact value
      · have early : i ∈ before := by
          have all := r.complete i
          rw [order] at all
          exact (List.mem_append.mp all).resolve_right late
        obtain ⟨a, _, value, rfl, -⟩ := gains.inside i early
        rw [gains'.outside i late, value]
    rw [value, Option.some_or]
  rw [readList, order, bind_ok (run.trans stop), complete?_eq full]
  simp only
  have close : endList (s' ++ .char ']' :: rest) = .ok ((), rest) :=
    (bind_peek _ blank' _).trans (endList_close rest)
  rw [bind_ok close]
  rfl

omit reads in
/-- The end of a list before a field that has to be there. -/
theorem positions_short {after : List ι} {i : ι} (late : i ∈ after) (required : r.absent i = none)
    (count : Nat) (d : r.Draft) {s : Input} (blank : Blank s) (rest : Input) :
    ∃ m left, r.positions after count d (s ++ .char ']' :: rest) = .error ⟨.mismatch m, left⟩ := by
  -- the fields before it may be absent, so it is found only once the list has ended
  have ended : ∀ (after : List ι) (count : Nat) (d : r.Draft), i ∈ after →
      ∃ m left, positions.endOfItems r after d count (.char ']' :: rest)
        = .error ⟨.mismatch m, left⟩ := by
    intro after
    induction after with
    | nil => exact fun _ _ h => absurd h List.not_mem_nil
    | cons j after ih =>
      intro count d late
      rw [positions.endOfItems]
      cases hj : r.absent j with
      | none => exact ⟨_, _, rfl⟩
      | some v =>
        have other : i ≠ j := fun same => by rw [same, hj] at required; cases required
        exact ih (count + 1) (d.set j v) ((List.mem_cons.mp late).resolve_left other)
  cases after with
  | nil => exact absurd late List.not_mem_nil
  | cons j after =>
    rw [positions, bind_ok ((nextItem_skip _ blank _).trans (nextItem_end _ rest))]
    simp only [Bool.false_eq_true, if_false]
    cases hj : r.absent j with
    | none => exact ⟨_, _, rfl⟩
    | some v =>
      have other : i ≠ j := fun same => by rw [same, hj] at required; cases required
      exact ended after (count + 1) (d.set j v) ((List.mem_cons.mp late).resolve_left other)

/-- **A list that ends too early is refused.** -/
theorem readList_short {before after : List ι} {i : ι} {f : ι → Input} {u : Input}
    (order : r.fields = before ++ after) (fields : ∀ j ∈ before, ∃ a, texts j a (f j))
    (late : i ∈ after) (required : r.absent i = none) (items : Separated (before.map f) u)
    (rest : Input) :
    ∃ m left, r.readList (u ++ .char ']' :: rest) = .error ⟨.mismatch m, left⟩ := by
  obtain ⟨d, s, -, blank, run⟩ := positions_separated reads items fields after fun _ => .listEnd rest
  obtain ⟨m, left, stopped⟩ := positions_short late required before.length d blank rest
  exact ⟨m, left, by rw [readList, order, bind_error _ (run.trans stopped)]⟩

/-- **A list is refused at the first item of which no value is read.** -/
theorem readList_flaw {before after : List ι} {i : ι} {f : ι → Input} {u t : Input}
    {ts : List Input} (order : r.fields = before ++ i :: after)
    (fields : ∀ j ∈ before, ∃ a, texts j a (f j)) (flaw : Refuses (r.read i) t)
    (items : Separated (before.map f ++ t :: ts) u) (rest : Input) :
    ∃ m left, r.readList (u ++ rest) = .error ⟨.mismatch m, left⟩ := by
  obtain ⟨u, s, w, separated, blank, rfl⟩ := items.split
  have shape : u ++ (comma (before.map f) ++ (s ++ (t ++ w))) ++ rest
      = u ++ (comma (before.map f) ++ (s ++ (t ++ (w ++ rest)))) := by
    simp only [List.append_assoc]
  obtain ⟨d, s₁, -, blank₁, run⟩ := positions_separated reads separated fields (i :: after)
    (w := comma (before.map f) ++ (s ++ (t ++ (w ++ rest)))) fun some => by
      cases before with
      | nil => exact absurd rfl some
      | cons _ _ => exact .comma _
  obtain ⟨m, left, refused⟩ := flaw.refused .nil (w ++ rest)
  have next : nextItem (before.length == 0)
      (s₁ ++ (comma (before.map f) ++ (s ++ (t ++ (w ++ rest))))) = .ok (true, t ++ (w ++ rest)) := by
    rw [nextItem_skip _ blank₁]
    cases before with
    | nil => exact (nextItem_skip true blank _).trans (nextItem_first flaw.visible _)
    | cons _ _ => exact nextItem_comma blank flaw.visible _
  have stopped : r.positions (i :: after) before.length d
      (s₁ ++ (comma (before.map f) ++ (s ++ (t ++ (w ++ rest))))) = .error ⟨.mismatch m, left⟩ := by
    rw [positions, bind_ok next]
    simp only [if_true]
    exact bind_error _ refused
  refine ⟨m, left, ?_⟩
  rw [shape, readList, order, bind_error _ (run.trans stopped)]

end

/-! ### Records -/

section

variable (names : (r.fields.map r.name).Nodup)
  (reads : ∀ i a t, texts i a t → Takes (r.read i) t a)

include names reads

/-- **Every text of a record is taken.** -/
theorem takes_form {v : r.Full} {t : Input} (form : r.Form texts v t) : Takes r.readFull t v := by
  cases form with
  | object fits members =>
    refine ⟨⟨_, _, rfl, rfl, by decide⟩, fun {s rest} blank ends => ?_⟩
    rw [List.cons_append, List.append_assoc, readFull, bind_ok (valueStart_blank blank rfl _)]
    exact readObject_fits names reads fits members rest
  | list order fields absent items =>
    refine ⟨⟨_, _, rfl, rfl, by decide⟩, fun {s rest} blank ends => ?_⟩
    rw [List.cons_append, List.append_assoc, readFull, bind_ok (valueStart_blank blank rfl _)]
    exact readList_items reads order fields absent items rest

omit names reads in
/-- The first flaw among members: a field that is there already, or one that is flawed in itself. -/
theorem Values.first_flaw {flaws : ι → Input → Prop} {ms : List (String × Input)}
    (values : r.Values texts flaws ms) :
    r.Begun texts ms ∨ ∃ before m after i, ms = before ++ m :: after ∧ r.Begun texts before ∧
      m.1 = r.name i ∧
        (r.name i ∈ before.map (·.1) ∨ r.name i ∉ before.map (·.1) ∧ flaws i m.2) := by
  induction ms using List.reverseRecOn with
  | nil =>
    exact Or.inl ⟨fun _ h => absurd h List.not_mem_nil, fun _ h => absurd h List.not_mem_nil,
      fun _ => Nat.zero_le _⟩
  | append_singleton ms m ih =>
    have last : m ∈ ms ++ [m] := List.mem_append_right _ List.mem_cons_self
    have others := ih ⟨fun m' hm' => values.fields m' (List.mem_append_left _ hm'),
      fun m' hm' => values.others m' (List.mem_append_left _ hm')⟩
    rcases others with begun | ⟨before, m', after, i, rfl, begun, name, flaw⟩
    · -- the last member comes behind members without a flaw
      by_cases flawed : ∃ i, m.1 = r.name i ∧
          (r.name i ∈ ms.map (·.1) ∨ r.name i ∉ ms.map (·.1) ∧ flaws i m.2)
      · obtain ⟨i, name, flaw⟩ := flawed
        exact Or.inr ⟨ms, m, [], i, rfl, begun, name, flaw⟩
      · have new : ∀ i, m.1 = r.name i → r.name i ∉ ms.map (·.1) := fun i name there =>
          flawed ⟨i, name, Or.inl there⟩
        refine Or.inl ⟨fun m' hm' i name => ?_, fun m' hm' unknown => ?_, fun i => ?_⟩
        · rcases List.mem_append.mp hm' with early | here
          · exact begun.fields m' early i name
          · obtain rfl := List.mem_singleton.mp here
            exact (values.fields m' hm' i name).resolve_right fun flaw =>
              flawed ⟨i, name, Or.inr ⟨new i name, flaw⟩⟩
        · exact values.others m' hm' unknown
        · rw [List.map_append, List.count_append, List.map_singleton, List.count_singleton]
          by_cases name : m.1 = r.name i
          · rw [List.count_eq_zero.mpr (new i name), beq_iff_eq.mpr name]
            exact Nat.le_refl 1
          · rw [beq_false_of_ne name]
            exact begun.once i
    · exact Or.inr ⟨before, m', after ++ [m], i, by simp, begun, name, flaw⟩

omit names reads in
/-- The first flaw among items. -/
theorem first_flaw {flaws : ι → Input → Prop} {before : List ι} {f : ι → Input}
    (values : ∀ j ∈ before, (∃ a, texts j a (f j)) ∨ flaws j (f j)) :
    (∀ j ∈ before, ∃ a, texts j a (f j)) ∨ ∃ early i late, before = early ++ i :: late ∧
      (∀ j ∈ early, ∃ a, texts j a (f j)) ∧ flaws i (f i) := by
  induction before with
  | nil => exact Or.inl fun _ h => absurd h List.not_mem_nil
  | cons j before ih =>
    rcases values j List.mem_cons_self with text | flaw
    · rcases ih fun j' hj' => values j' (List.mem_cons_of_mem _ hj') with
        all | ⟨early, i, late, rfl, texts, flaw⟩
      · exact Or.inl (List.forall_mem_cons.mpr ⟨text, all⟩)
      · exact Or.inr ⟨j :: early, i, late, rfl, List.forall_mem_cons.mpr ⟨text, texts⟩, flaw⟩
    · exact Or.inr ⟨[], j, before, rfl, fun _ h => absurd h List.not_mem_nil, flaw⟩

omit names in
/-- No text of a field is flawed. -/
theorem not_flaw {flaws : ι → Input → Prop}
    (refused : ∀ i t, flaws i t → Refuses (r.read i) t) {i : ι} {t : Input}
    (text : ∃ a, texts i a t) : ¬flaws i t := by
  intro flaw
  obtain ⟨a, text⟩ := text
  obtain ⟨m, left, stopped⟩ := (refused i t flaw).refused .nil []
  cases stopped.symm.trans ((reads i a t text).taken .nil .nil)

/-- **An object with a flaw is refused.** -/
theorem readObject_flawed {flaws : ι → Input → Prop}
    (refused : ∀ i t, flaws i t → Refuses (r.read i) t) {ms : List (String × Input)}
    {u : Input} (members : Members Quoted ms u) (values : r.Values texts flaws ms)
    (flawed : ¬r.Begun texts ms ∨ ∃ i, r.absent i = none ∧ r.name i ∉ ms.map (·.1)) (rest : Input) :
    ∃ m left, r.readObject (u ++ .char '}' :: rest) = .error ⟨.mismatch m, left⟩ := by
  rcases values.first_flaw with begun | ⟨before, m, after, i, rfl, begun, name, flaw⟩
  · obtain ⟨i, required, missing⟩ := flawed.resolve_left fun h => h begun
    cases first : r.fields.find? (r.misses (ms.map (·.1))) with
    | some j => exact ⟨_, readObject_missing names reads begun members first rest⟩
    | none =>
      have there := List.find?_eq_none.mp first i (r.complete i)
      rw [misses, required, Bool.eq_false_iff.mpr fun h => missing (List.contains_iff_mem.mp h)]
        at there
      exact absurd rfl there
  · exact readObject_flaw names reads begun name (flaw.imp_right (And.imp_right (refused i m.2)))
      members _

omit names in
/-- **A list with a flaw is refused.** -/
theorem readList_flawed {flaws : ι → Input → Prop}
    (refused : ∀ i t, flaws i t → Refuses (r.read i) t) {before after : List ι}
    {f : ι → Input} {u : Input} (order : r.fields = before ++ after)
    (items : Separated (before.map f) u)
    (values : ∀ j ∈ before, (∃ a, texts j a (f j)) ∨ flaws j (f j))
    (flawed : (∃ i ∈ after, r.absent i = none) ∨ ∃ i ∈ before, flaws i (f i)) (rest : Input) :
    ∃ m left, r.readList (u ++ .char ']' :: rest) = .error ⟨.mismatch m, left⟩ := by
  rcases first_flaw values with all | ⟨early, i, late, rfl, fields, flaw⟩
  · rcases flawed with ⟨i, late, required⟩ | ⟨i, there, flaw⟩
    · exact readList_short reads order all late required items rest
    · exact absurd flaw (not_flaw reads refused (all i there))
  · rw [List.append_assoc, List.cons_append] at order
    rw [List.map_append, List.map_cons] at items
    exact readList_flaw reads order fields (refused i (f i) flaw) items _

/-- **Every flawed text is refused.** -/
theorem refuses_flawed {flaws : ι → Input → Prop}
    (refused : ∀ i t, flaws i t → Refuses (r.read i) t) {t : Input}
    (flawed : r.Flawed texts flaws t) : Refuses r.readFull t := by
  have object : ∀ {ms u}, Members Quoted ms u → r.Values texts flaws ms →
      (¬r.Begun texts ms ∨ ∃ i, r.absent i = none ∧ r.name i ∉ ms.map (·.1)) →
      Refuses r.readFull (.char '{' :: (u ++ [.char '}'])) := by
    intro ms u members values flawed
    refine ⟨⟨_, _, rfl, rfl, by decide⟩, fun {s} blank rest => ?_⟩
    rw [List.cons_append, List.append_assoc, readFull, bind_ok (valueStart_blank blank rfl _)]
    exact readObject_flawed names reads refused members values flawed rest
  have list : ∀ {before after f u}, r.fields = before ++ after → Separated (before.map f) u →
      (∀ j ∈ before, (∃ a, texts j a (f j)) ∨ flaws j (f j)) →
      ((∃ i ∈ after, r.absent i = none) ∨ ∃ i ∈ before, flaws i (f i)) →
      Refuses r.readFull (.char '[' :: (u ++ [.char ']'])) := by
    intro before after f u order items values flawed
    refine ⟨⟨_, _, rfl, rfl, by decide⟩, fun {s} blank rest => ?_⟩
    rw [List.cons_append, List.append_assoc, readFull, bind_ok (valueStart_blank blank rfl _)]
    exact readList_flawed reads refused order items values flawed rest
  cases flawed with
  | @repeated _ _ i members values twice =>
    exact object members values (Or.inl fun begun => absurd (begun.once i) (by omega))
  | missing members values required missing =>
    exact object members values (Or.inr ⟨_, required, missing⟩)
  | member members values there flaw =>
    exact object members values
      (Or.inl fun begun => not_flaw reads refused (begun.fields _ there _ rfl) flaw)
  | short order items values late required =>
    exact list order items values (Or.inl ⟨_, late, required⟩)
  | item order items values there flaw => exact list order items values (Or.inr ⟨_, there, flaw⟩)

end

end Record

/-! ### Tables of texts -/

/-- One entry, and the others behind it. -/
theorem entries_member {value : Read α} {m : String × Input} {t : Input} {a : α}
    (member : Member Quoted m t) (takes : Takes value m.2 a) {first : Bool} {input rest rest' : Input}
    (next : nextKey first input = .ok (true, t ++ rest)) (ends : Ends rest) {fuel : Nat}
    {es : List (String × α)} (others : entries value fuel false rest = .ok (es, rest')) :
    entries value (fuel + 1) first input = .ok ((m.1, a) :: es, rest') := by
  obtain ⟨s, s', before, behind, read⟩ := member.key_read
  rw [entries, bind_ok next]
  simp only [if_true]
  rw [bind_ok (read rest), bind_ok (colon_blank before _), bind_ok (takes.taken behind ends),
    bind_ok others]
  rfl

/-- **Entries are read** one by one, if their values are. -/
theorem entries_separated {value : Read α} {es : List (String × α)} {ms : List (String × Input)}
    (each : List.Forall₂ (fun e m => e.1 = m.1 ∧ Takes value m.2 e.2) es ms) {ts : List Input}
    (members : List.Forall₂ (Member Quoted) ms ts) {u : Input} (separated : Separated ts u)
    (fuel : Nat) (rest : Input) :
    entries value (fuel + 1 + ts.length) true (u ++ .char '}' :: rest)
      = .ok (es, .char '}' :: rest) := by
  have others : ∀ {es ms ts u}, List.Forall₂ (fun e m => e.1 = m.1 ∧ Takes value m.2 e.2) es ms →
      List.Forall₂ (Member Quoted) ms ts → Behind ts u →
      entries value (fuel + 1 + ts.length) false (u ++ .char '}' :: rest)
        = .ok (es, .char '}' :: rest) := by
    -- by induction on the entries that follow others
    intro es ms ts u each members behind
    induction each generalizing ts u with
    | nil =>
      cases members
      cases behind with
      | nil blank =>
        rw [List.length_nil, Nat.add_zero, entries,
          bind_ok ((nextKey_skip false blank _).trans (nextKey_end false rest))]
        rfl
    | cons entry _ ih =>
      cases members with
      | @cons _ t _ ts member members =>
        cases behind with
        | @cons _ s s' u _ before after behind =>
          have next : nextKey false (s ++ .char ',' :: (s' ++ (t ++ u)) ++ .char '}' :: rest)
              = .ok (true, t ++ (u ++ .char '}' :: rest)) := by
            simp only [List.cons_append, List.append_assoc]
            exact member.next_comma before after _
          have read := entries_member member entry.2 next (behind.ends (.objectEnd rest))
            (ih members behind)
          rwa [← entry.1] at read
  cases each with
  | nil =>
    cases members
    cases separated with
    | nil blank =>
      rw [List.length_nil, Nat.add_zero, entries,
        bind_ok ((nextKey_skip true blank _).trans (nextKey_end true rest))]
      rfl
  | cons entry each =>
    cases members with
    | @cons _ t _ ts member members =>
      cases separated with
      | @cons _ s u _ blank behind =>
        have next : nextKey true (s ++ (t ++ u) ++ .char '}' :: rest)
            = .ok (true, t ++ (u ++ .char '}' :: rest)) := by
          rw [List.append_assoc, List.append_assoc]
          exact member.next_first blank _
        have read := entries_member member entry.2 next (behind.ends (.objectEnd rest))
          (others each members behind)
        rwa [← entry.1] at read

/-- **A table of texts is taken.** -/
theorem takes_textMap {es : List (String × String)} {t : Input} (table : TableText es t) :
    Takes textMap t es := by
  obtain ⟨entries, ts, members, separated⟩ := table
  refine ⟨⟨_, _, rfl, rfl, by decide⟩, fun {s rest} blank ends => ?_⟩
  obtain ⟨fuel, hroom⟩ := room_separated separated (List.cons_ne_nil (.char '}') rest)
  have each := entries.imp fun e m h => And.imp_right (takes_string "a string") h
  rw [List.cons_append, List.append_assoc, textMap, bind_ok (valueStart_blank blank rfl _)]
  simp only
  rw [List.cons_append, List.nil_append, bind_ok (advance_cons _ _), bind_ok hroom,
    bind_ok (entries_separated each members separated fuel rest), bind_ok (endObject_close rest)]
  rfl

/-! ### Names -/

theorem identifier_text {choices : List (String × α)} {name : String} {a : α}
    (choice : choice? choices name = .ok a) {t : Input} (text : StringText name t) {s : Input}
    (blank : Blank s) (rest : Input) : identifier choices (s ++ (t ++ rest)) = .ok (a, rest) := by
  rw [identifier, bind_ok (string_text "variant identifier" text blank rest), choice]
  rfl

/-- **A name is taken** for the choice that it stands for, by itself or in an object. -/
theorem takes_variant {choices : List (String × α)} {name : String} {a : α}
    (choice : choice? choices name = .ok a) {t : Input} (text : VariantText name t) :
    Takes (variant choices) t a := by
  cases text with
  | plain text =>
    refine ⟨text.visible, fun {s rest} blank ends => ?_⟩
    obtain ⟨spells⟩ := text
    have read := identifier_text choice (.quoted spells) .nil rest
    rw [List.cons_append, variant, bind_ok (valueStart_blank blank rfl _)]
    exact read
  | @object k s₁ s₂ s₃ s₄ key blank₁ blank₂ blank₃ blank₄ =>
    refine ⟨⟨_, _, rfl, rfl, by decide⟩, fun {s rest} blank ends => ?_⟩
    obtain ⟨spells⟩ := key
    have shape : ∀ u : Input, .char '{' :: (s₁ ++ (.char '\"' :: (u ++ [.char '\"']) ++
          (s₂ ++ .char ':' :: (s₃ ++ (Mark.ofString "null" ++ (s₄ ++ [.char '}'])))))) ++ rest
        = .char '{' :: (s₁ ++ .char '\"' :: (u ++ .char '\"' ::
          (s₂ ++ .char ':' :: (s₃ ++ .char 'n' :: .char 'u' :: .char 'l' :: .char 'l' ::
            (s₄ ++ .char '}' :: rest))))) := by
      intro u
      have null : Mark.ofString "null" = [.char 'n', .char 'u', .char 'l', .char 'l'] := by decide
      simp only [null, List.cons_append, List.append_assoc, List.nil_append]
    have name := identifier_text choice (.quoted spells) .nil
      (s₂ ++ .char ':' :: (s₃ ++ .char 'n' :: .char 'u' :: .char 'l' :: .char 'l' ::
        (s₄ ++ .char '}' :: rest)))
    have nothing : unit (s₃ ++ .char 'n' :: .char 'u' :: .char 'l' :: .char 'l' ::
        (s₄ ++ .char '}' :: rest)) = .ok ((), s₄ ++ .char '}' :: rest) := by
      rw [unit, bind_ok (valueStart_blank blank₃ rfl _)]
      rfl
    simp only [List.nil_append, List.cons_append, List.append_assoc] at name
    rw [shape, variant, bind_ok (valueStart_blank blank rfl _)]
    simp only
    rw [bind_ok (advance_cons _ _), bind_ok (valueStart_blank blank₁ rfl _)]
    simp only [bne_self_eq_false, Bool.false_eq_true, if_false]
    rw [bind_ok name, bind_ok (colon_blank blank₂ _), bind_ok nothing,
      bind_ok (peek_blank blank₄ rfl rest)]
    rfl

end AuditRelay.Json
