/-!
# Details of a log

The details of a log are texts under keys. They are kept in ascending order of their keys, so two
details with the same entries are equal. Where they are written, the entries may stand in any order
(`Detail.Order`).
-/

namespace AuditRelay

namespace Detail

/-- Puts an entry at its place, replacing the one with the same key. -/
def insertEntry (k v : String) : List (String × String) → List (String × String)
  | [] => [(k, v)]
  | e :: rest =>
    if k < e.1 then (k, v) :: e :: rest
    else if k = e.1 then (k, v) :: rest
    else e :: insertEntry k v rest

theorem mem_insertEntry {k v : String} {entries : List (String × String)} {e : String × String}
    (h : e ∈ insertEntry k v entries) : e = (k, v) ∨ e ∈ entries := by
  induction entries with
  | nil => exact Or.inl (List.mem_singleton.1 h)
  | cons a rest ih =>
    unfold insertEntry at h
    split at h
    · exact (List.mem_cons.1 h)
    · split at h
      · rcases List.mem_cons.1 h with h | h
        · exact Or.inl h
        · exact Or.inr (List.mem_cons_of_mem _ h)
      · rcases List.mem_cons.1 h with h | h
        · exact Or.inr (h ▸ List.mem_cons_self)
        · exact (ih h).imp_right (List.mem_cons_of_mem _)

/-- Ascending order of keys, each key once. -/
abbrev Sorted (entries : List (String × String)) : Prop :=
  entries.Pairwise fun a b => a.1 < b.1

theorem lt_of_not {k l : String} (h₁ : ¬k < l) (h₂ : ¬k = l) : l < k := by
  rcases String.le_total k l with h | h
  · exact absurd (String.le_antisymm h (String.not_lt.1 h₁)) h₂
  · exact String.not_le.1 fun h' => h₂ (String.le_antisymm h' h)

theorem sorted_insertEntry (k v : String) {entries : List (String × String)}
    (h : Sorted entries) : Sorted (insertEntry k v entries) := by
  induction entries with
  | nil => simp [insertEntry]
  | cons a rest ih =>
    have ⟨ha, hrest⟩ := List.pairwise_cons.1 h
    unfold insertEntry
    split
    · rename_i hlt
      refine List.pairwise_cons.2 ⟨fun b hb => ?_, h⟩
      rcases List.mem_cons.1 hb with rfl | hb
      · exact hlt
      · exact String.lt_trans hlt (ha b hb)
    · split
      · rename_i heq
        exact List.pairwise_cons.2 ⟨fun b hb => heq ▸ ha b hb, hrest⟩
      · rename_i hlt heq
        refine List.pairwise_cons.2 ⟨fun b hb => ?_, ih hrest⟩
        rcases mem_insertEntry hb with rfl | hb
        · exact lt_of_not hlt heq
        · exact ha b hb

end Detail

/-- Texts under keys, in ascending order of the keys. -/
structure Detail where
  entries : List (String × String)
  sorted : Detail.Sorted entries
  deriving DecidableEq, Repr

namespace Detail

/-- No details. -/
def empty : Detail := ⟨[], List.Pairwise.nil⟩

instance : Inhabited Detail := ⟨empty⟩

/-- Puts a text under a key. -/
def insert (d : Detail) (k v : String) : Detail :=
  ⟨insertEntry k v d.entries, sorted_insertEntry k v d.sorted⟩

/-- Removes a key. -/
def erase (d : Detail) (k : String) : Detail :=
  ⟨d.entries.filter (·.1 ≠ k), d.sorted.filter _⟩

/-- The text under a key. -/
def get? (d : Detail) (k : String) : Option String :=
  (d.entries.find? (·.1 == k)).map (·.2)

theorem find?_insertEntry (k v k' : String) (entries : List (String × String)) :
    (insertEntry k v entries).find? (·.1 == k')
      = if k' = k then some (k, v) else entries.find? (·.1 == k') := by
  induction entries with
  | nil =>
    by_cases same : k' = k
    · subst same
      simp [insertEntry]
    · simp [insertEntry, same, Ne.symm same]
  | cons e rest ih =>
    unfold insertEntry
    by_cases same : k' = k
    · -- the entry stands before everything that has its key
      subst same
      split
      · simp
      · split
        · simp
        · next hlt heq => simp [ih, Ne.symm heq]
    · rw [if_neg same] at ih ⊢
      have other : (k == k') = false := beq_false_of_ne (Ne.symm same)
      split
      · simp [other]
      · split
        · next heq => simp [other, ← heq]
        · rw [List.find?_cons, List.find?_cons, ih]

/-- An entry that is put in is found under its key, and the others are found as before. -/
theorem get?_insert (d : Detail) (k v k' : String) :
    (d.insert k v).get? k' = if k' = k then some v else d.get? k' := by
  rw [get?, insert, find?_insertEntry]
  split <;> rfl

/-- The details of a list of entries; of several entries with one key the last counts. -/
def ofList (entries : List (String × String)) : Detail :=
  entries.foldl (fun d e => d.insert e.1 e.2) empty

/-- An order in which the entries of details may be written. -/
structure Order where
  /-- Puts entries in that order. -/
  arrange : List (String × String) → List (String × String)
  perm : ∀ entries, (arrange entries).Perm entries

/-- The order of the keys. -/
def Order.ascending : Order := ⟨id, fun _ => List.Perm.refl _⟩

/-- Number of keys. -/
def size (d : Detail) : Nat :=
  d.entries.length

end Detail

end AuditRelay
