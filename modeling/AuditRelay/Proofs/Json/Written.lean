import AuditRelay.Proofs.Json.Grammar
import Mathlib.Data.List.Nodup

/-!
# What is written is a text

What is written of a value is one of its texts: of a string (`stringText_write`), of a table of
texts (`tableText_write`) and of a record (`Record.form_write`), if that holds of its fields and if a
field that is left out has the value that stands for an absent one.
-/

namespace AuditRelay.Json

/-! ### Strings -/

theorem hex_control {c : Char} (control : c.toNat < 0x20) :
    Hex c.toNat [.char '0', .char '0', .char (hexDigit (c.toNat / 16)),
      .char (hexDigit (c.toNat % 16))] := by
  have zero : HexDigit 0 '0' := .lower (by decide)
  have digits := Hex.digits zero zero (.lower (n := c.toNat / 16) (by omega))
    (.lower (n := c.toNat % 16) (by omega))
  have value : ((0 * 16 + 0) * 16 + c.toNat / 16) * 16 + c.toNat % 16 = c.toNat := by omega
  rwa [value] at digits

/-- What is written of a character is one of its spellings. -/
theorem spelling_escapeChar (c : Char) : Spelling c ((escapeChar c).map .char) := by
  -- seven characters have a short form behind a backslash
  by_cases hquote : c = '\"'
  · subst hquote
    exact .short (by decide)
  by_cases hbackslash : c = '\\'
  · subst hbackslash
    exact .short (by decide)
  by_cases hb : c = '\x08'
  · subst hb
    exact .short (by decide)
  by_cases hf : c = '\x0c'
  · subst hf
    exact .short (by decide)
  by_cases hn : c = '\n'
  · subst hn
    exact .short (by decide)
  by_cases hr : c = '\r'
  · subst hr
    exact .short (by decide)
  by_cases ht : c = '\t'
  · subst ht
    exact .short (by decide)
  simp only [escapeChar, hquote, hbackslash, hb, hf, hn, hr, ht, if_false]
  -- of the others, those below the space are written by their numbers
  by_cases hcontrol : c.toNat < 0x20
  · rw [if_pos hcontrol]
    exact .number (hex_control hcontrol)
  · rw [if_neg hcontrol]
    exact .plain hquote hbackslash (Nat.not_lt.mp hcontrol)

theorem spells_flatMap (cs : List Char) : Spells cs ((cs.flatMap escapeChar).map .char) := by
  induction cs with
  | nil => exact .nil
  | cons c cs ih =>
    rw [List.flatMap_cons, List.map_append]
    exact .cons (spelling_escapeChar c) ih

/-- The marks of a string behind its opening quote, up to the closing one. -/
def inside (value : String) : Input :=
  (value.toList.flatMap escapeChar).map .char

theorem quoted_inside (value : String) : Quoted value (inside value) := spells_flatMap _

theorem ofString_writeString (value : String) :
    Mark.ofString (writeString value) = .char '\"' :: (inside value ++ [.char '\"']) := by
  simp [writeString, Mark.ofString, inside]

/-- **What is written of a string is one of its texts.** -/
theorem stringText_write (value : String) :
    StringText value (Mark.ofString (writeString value)) := by
  rw [ofString_writeString]
  exact .quoted (quoted_inside value)

/-! ### Members and fields -/

theorem ofString_intercalate (t : String) (ts : List String) :
    Mark.ofString (",".intercalate (t :: ts))
      = Mark.ofString t ++ ts.flatMap fun u => .char ',' :: Mark.ofString u := by
  induction ts generalizing t with
  | nil => rw [String.intercalate_singleton, List.flatMap_nil, List.append_nil]
  | cons u ts ih =>
    rw [String.intercalate_cons_cons, Mark.ofString_append, Mark.ofString_append, ih,
      List.flatMap_cons, List.append_assoc]
    rfl

theorem behind_flatMap (ts : List Input) : Behind ts (ts.flatMap fun t => .char ',' :: t) := by
  induction ts with
  | nil => exact .nil .nil
  | cons t ts ih => exact .cons .nil .nil ih

/-- What is written of texts with commas between them. -/
theorem separated_intercalate (ts : List String) :
    Separated (ts.map Mark.ofString) (Mark.ofString (",".intercalate ts)) := by
  cases ts with
  | nil => exact .nil .nil
  | cons t ts =>
    have behind := behind_flatMap (ts.map Mark.ofString)
    rw [List.flatMap_map] at behind
    rw [ofString_intercalate]
    exact .cons .nil behind

/-- **What is written of members are members.** -/
theorem members_writeObject (ms : List (String × String)) :
    ∃ u, Members Quoted (ms.map fun m => (m.1, Mark.ofString m.2)) u ∧
      Mark.ofString (writeObject ms) = .char '{' :: (u ++ [.char '}']) := by
  refine ⟨_, ⟨_, ?_, separated_intercalate (ms.map fun m => writeString m.1 ++ ":" ++ m.2)⟩, ?_⟩
  · rw [List.map_map, List.forall₂_map_right_iff, List.forall₂_map_left_iff, List.forall₂_same]
    intro m _
    have shape : (Mark.ofString ∘ fun m : String × String => writeString m.1 ++ ":" ++ m.2) m
        = .char '\"' :: (inside m.1 ++ .char '\"' :: ([] ++ .char ':' :: ([] ++ Mark.ofString m.2))) := by
      simp only [Function.comp, Mark.ofString_append, ofString_writeString, List.append_assoc,
        List.cons_append, List.nil_append]
      rfl
    rw [shape]
    exact .member (quoted_inside m.1) .nil .nil
  · rw [writeObject, Mark.ofString_append, Mark.ofString_append]
    rfl

/-- What is written of a table is one of its texts. -/
theorem tableText_write (es : List (String × String)) :
    TableText es (Mark.ofString (writeObject (es.map fun e => (e.1, writeString e.2)))) := by
  obtain ⟨u, members, text⟩ := members_writeObject (es.map fun e => (e.1, writeString e.2))
  rw [text]
  refine .object ?_ members
  rw [List.map_map, List.forall₂_map_right_iff, List.forall₂_same]
  exact fun e _ => ⟨rfl, stringText_write e.2⟩

/-- What is written of a field that may be left out: a text of its value, or nothing if its value is
the one for being absent. -/
def Record.Written {ι : Type} [DecidableEq ι] (r : Record ι) (texts : r.Texts) (v : r.Full) (i : ι) :
    Option String → Prop
  | some t => texts i (v i) (Mark.ofString t)
  | none => r.absent i = some (v i)

/-- **What is written of a record is one of its texts.** -/
theorem Record.form_write {ι : Type} [DecidableEq ι] {r : Record ι} {texts : r.Texts} {v : r.Full}
    (names : (r.fields.map r.name).Nodup) {write : ι → Option String}
    (written : ∀ i, r.Written texts v i (write i)) :
    r.Form texts v (Mark.ofString (r.write write)) := by
  obtain ⟨u, members, text⟩ := members_writeObject
    (r.fields.filterMap fun i => (write i).map fun t => (r.name i, t))
  have member : ∀ m ∈ (r.fields.filterMap fun i => (write i).map fun t => (r.name i, t)).map
      (fun m => (m.1, Mark.ofString m.2)), ∃ i t, write i = some t ∧ m = (r.name i, Mark.ofString t) := by
    intro m hm
    obtain ⟨m', hm', rfl⟩ := List.mem_map.mp hm
    obtain ⟨i, -, hi⟩ := List.mem_filterMap.mp hm'
    obtain ⟨t, ht, rfl⟩ := Option.map_eq_some_iff.mp hi
    exact ⟨i, t, ht, rfl⟩
  -- each field is written at most once
  have once : ((r.fields.filterMap fun i => (write i).map fun t => (r.name i, t)).map
      (fun m => (m.1, Mark.ofString m.2))).map (·.1) |>.Nodup := by
    have sub : ∀ fs : List ι, ((fs.filterMap fun i => (write i).map fun t => (r.name i, t)).map
        (fun m => (m.1, Mark.ofString m.2))).map (·.1) |>.Sublist (fs.map r.name) := by
      intro fs
      induction fs with
      | nil => exact .slnil
      | cons i fs ih =>
        cases hi : write i with
        | none =>
          rw [List.filterMap_cons_none (by rw [hi]; rfl)]
          exact ih.cons _
        | some t =>
          rw [List.filterMap_cons_some (b := (r.name i, t)) (by rw [hi]; rfl)]
          exact ih.cons_cons _
    exact (sub r.fields).nodup names
  rw [Record.write, text]
  refine .object ⟨?_, ?_, ?_, ?_⟩ members
  · intro m hm i hi
    obtain ⟨j, t, ht, rfl⟩ := member m hm
    obtain rfl := List.inj_on_of_nodup_map names (r.complete j) (r.complete i) hi
    have := written j
    rwa [ht] at this
  · intro m hm unknown
    obtain ⟨j, t, -, rfl⟩ := member m hm
    exact absurd rfl (unknown j)
  · exact fun i => List.nodup_iff_count_le_one.mp once (r.name i)
  · intro i missing
    have left := written i
    cases hi : write i with
    | none => rwa [hi] at left
    | some t =>
      refine absurd ?_ missing
      rw [List.map_map]
      exact List.mem_map.mpr ⟨(r.name i, t), List.mem_filterMap.mpr ⟨i, r.complete i, by rw [hi]; rfl⟩,
        rfl⟩

end AuditRelay.Json
