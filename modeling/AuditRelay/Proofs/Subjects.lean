import Mathlib.Data.List.Forall2
import AuditRelay.Proofs.Backpressure
import AuditRelay.Proofs.Configuration

/-!
# Subjects and the patterns of a stream

A stream holds the subjects that its patterns cover; a message with any other subject has no stream
to go to. The patterns come from the settings (`Settings.subjects`), the subject of a message from
its topic and its partition (`Message.subject`). Both are texts, put together in two places, and a
topic may have dots, empty words and stars of its own.

* `Subject.Covers` is what it means that a pattern covers a subject: word by word, where a star
  stands for any one word that is not empty.
* `Subject.words_join` takes a subject apart at the dot in front of the partition. The rest is that
  a number is written in digits: it is one word, is not empty and tells which number it is.
* `Settings.captures` says that the patterns of settings cover what is sent under them, and that
  subjects tell the partitions of a topic apart. `Dispatcher.Run.covered` says it of every call of
  every run.
-/

namespace AuditRelay

/-! ### Words -/

namespace Subject

/-- The words of a subject or a pattern; dots separate them. -/
def words (s : String) : List (List Char) :=
  s.toList.splitOn '.'

/-- The word that stands for any other in a pattern. -/
def wildcard : List Char := ['*']

/-- Whether a word of a pattern allows for a word of a subject. -/
def Allows (w v : List Char) : Prop :=
  if w = wildcard then v ≠ [] else w = v

instance (w v : List Char) : Decidable (Allows w v) :=
  inferInstanceAs (Decidable (if w = wildcard then v ≠ [] else w = v))

/-- **A pattern covers a subject** that has as many words, each of which is allowed for. -/
def Covers (pattern subject : String) : Prop :=
  List.Forall₂ Allows (words pattern) (words subject)

instance (pattern subject : String) : Decidable (Covers pattern subject) :=
  inferInstanceAs (Decidable (List.Forall₂ Allows (words pattern) (words subject)))

/-- A dot between two texts separates their words. -/
theorem words_join (s t : String) : words (s ++ "." ++ t) = words s ++ words t := by
  unfold words
  rw [String.toList_append, String.toList_append, List.append_assoc]
  exact List.splitOn_append_cons_self ..

/-- A text without dots is one word. -/
theorem words_of_dotless {s : String} (dotless : '.' ∉ s.toList) : words s = [s.toList] :=
  List.splitOn_eq_singleton dotless

/-- Every word allows for itself. -/
theorem Allows.refl (w : List Char) : Allows w w := by
  unfold Allows
  split
  · next star => exact star ▸ List.cons_ne_nil _ _
  · rfl

/-- Every subject is a pattern for itself, whatever words it has. -/
theorem Covers.refl (s : String) : Covers s s :=
  List.forall₂_same.mpr fun w _ => Allows.refl w

/-- A star at the end stands for one word more. -/
theorem covers_star (s : String) {t : String} (dotless : '.' ∉ t.toList) (ne : t.toList ≠ []) :
    Covers (s ++ ".*") (s ++ "." ++ t) := by
  have hpattern : words (s ++ ".*") = words s ++ [wildcard] := by
    rw [show s ++ ".*" = s ++ "." ++ "*" by rw [String.append_assoc]; rfl, words_join]
    rfl
  unfold Covers
  rw [hpattern, words_join, words_of_dotless dotless]
  refine List.rel_append (Covers.refl s) ?_
  refine List.Forall₂.cons ?_ List.Forall₂.nil
  unfold Allows
  rw [if_pos rfl]
  exact ne

/-! ### Numbers as words -/

/-- A number is written without dots. -/
theorem dot_notMem_number (n : Nat) : '.' ∉ (toString n).toList := by
  rw [Nat.toString_eq_repr, Nat.toList_repr]
  intro hdot
  have hdigit := Nat.isDigit_of_mem_toDigits (by decide) (by decide) hdot
  exact absurd hdigit (by decide)

theorem number_ne_nil (n : Nat) : (toString n).toList ≠ [] := by
  rw [Nat.toString_eq_repr, Nat.toList_repr]
  exact Nat.toDigits_ne_nil

/-- A number is read back from its digits. -/
theorem number_injective {m n : Nat} (same : toString m = toString n) : m = n := by
  have digits : Nat.toDigits 10 m = Nat.toDigits 10 n := by
    rw [← Nat.toList_repr, ← Nat.toList_repr]
    exact congrArg String.toList same
  calc m = Nat.ofDigitChars 10 (Nat.toDigits 10 m) 0 := Nat.ofDigitChars_ten_toDigits.symm
    _ = Nat.ofDigitChars 10 (Nat.toDigits 10 n) 0 := by rw [digits]
    _ = n := Nat.ofDigitChars_ten_toDigits

end Subject

open Subject

/-! ### Messages -/

namespace Message

theorem subject_of_none {m : Message} (none : m.partition = none) : m.subject = m.topic := by
  unfold subject
  rw [none]

theorem subject_of_some {m : Message} {k : UInt32} (some : m.partition = some k) :
    m.subject = m.topic ++ "." ++ toString k.toNat := by
  unfold subject
  rw [some]

/-- The subject of a partition has one word more than the topic. -/
theorem length_words_subject (m : Message) :
    (words m.subject).length
      = (words m.topic).length + (if m.partition.isSome then 1 else 0) := by
  cases hp : m.partition with
  | none => rw [subject_of_none hp]; rfl
  | some k =>
    rw [subject_of_some hp, words_join, words_of_dotless (dot_notMem_number _),
      List.length_append]
    rfl

/-- **Subjects tell partitions apart**: of the messages of one topic, those with one subject are
those of one partition. -/
theorem subject_eq_iff {m n : Message} (topic : m.topic = n.topic) :
    m.subject = n.subject ↔ m.partition = n.partition := by
  constructor
  · intro hsubject
    have hlength := congrArg (fun s => (words s).length) hsubject
    simp only [length_words_subject, topic] at hlength
    -- the numbers of words agree, so both have a partition or none has
    cases hm : m.partition with
    | none =>
      cases hn : n.partition with
      | none => rfl
      | some k => simp [hm, hn] at hlength
    | some j =>
      cases hn : n.partition with
      | none => simp [hm, hn] at hlength
      | some k =>
        rw [subject_of_some hm, subject_of_some hn, topic] at hsubject
        have hnumber : toString j.toNat = toString k.toNat :=
          (String.append_right_inj _).mp hsubject
        rw [UInt32.toNat.inj (number_injective hnumber)]
  · intro hpartition
    unfold subject
    rw [hpartition, topic]

/-- A random number leads to one of the partitions there are. -/
theorem partitionOf_random (n : UInt32) (draw : Nat) :
    ∃ k, partitionOf (.random n) draw = some k ∧ k.toNat < max n.toNat 1 := by
  have hpos : 0 < max n.toNat 1 := Nat.lt_of_lt_of_le Nat.zero_lt_one (Nat.le_max_right ..)
  have hlt : draw % max n.toNat 1 < max n.toNat 1 := Nat.mod_lt _ hpos
  refine ⟨_, rfl, ?_⟩
  rw [UInt32.toNat_ofNat_of_lt']
  · exact hlt
  · have hsize : n.toNat < UInt32.size := n.toNat_lt
    exact Nat.lt_of_lt_of_le hlt (Nat.max_le.mpr ⟨Nat.le_of_lt hsize, by decide⟩)

end Message

/-! ### The patterns of settings -/

namespace Settings

/-- Some pattern of the settings covers the subject. -/
def Holds (s : Settings) (subject : String) : Prop :=
  ∃ pattern ∈ s.subjects, Covers pattern subject

/-- **What is sent under settings** is covered by their patterns and goes to a partition that there
is. -/
structure Captures (s : Settings) : Prop where
  /-- Some pattern covers the subject of a message, whatever the log and the random number are. -/
  covered : ∀ draw l order, s.Holds (Message.ofLog s draw l order).subject
  /-- The stream of a client has the patterns of the settings. -/
  stream : ∀ e c, Nats.Config.ofSettings e s = .ok c → c.subjects = s.subjects
  single : s.partitioning = .single →
    ∀ draw l order, (Message.ofLog s draw l order).partition = none
  random : ∀ n, s.partitioning = .random n → ∀ draw l order,
    ∃ k, (Message.ofLog s draw l order).partition = some k ∧ k.toNat < max n.toNat 1
  /-- The messages to one topic have one subject only if they have one partition. -/
  apart : ∀ m n : Message, m.topic = n.topic →
    (m.subject = n.subject ↔ m.partition = n.partition)

/-- The topic and, if it has partitions, each of them is covered. -/
theorem holds_subject (s : Settings) (draw : Nat) (l : Log) (order : Detail.Order) :
    s.Holds (Message.ofLog s draw l order).subject := by
  cases hp : s.partitioning with
  | single =>
    have hnone : (Message.ofLog s draw l order).partition = none := by
      simp [Message.ofLog, Message.address, Message.partitionOf, hp]
    rw [Message.subject_of_none hnone]
    refine ⟨s.topic, ?_, Covers.refl _⟩
    simp [subjects, hp]
  | random n =>
    obtain ⟨k, hk, -⟩ := Message.partitionOf_random n draw
    have hsome : (Message.ofLog s draw l order).partition = some k := by
      simp [Message.ofLog, Message.address, hp, hk]
    rw [Message.subject_of_some hsome]
    refine ⟨s.topic ++ ".*", ?_, covers_star _ (dot_notMem_number _) (number_ne_nil _)⟩
    simp [subjects, hp]

/-- **The patterns of settings cover every subject** that a message under these settings has, and
subjects tell partitions apart, whatever the settings are. -/
theorem captures (s : Settings) : s.Captures where
  covered := s.holds_subject
  stream := fun _ _ config => (Nats.Config.follows_of_ofSettings config).subjects
  single := by
    intro single draw l order
    rw [Message.ofLog, Message.address, single]
    rfl
  random := by
    intro n random draw l order
    rw [Message.ofLog, Message.address, random]
    exact Message.partitionOf_random n draw
  apart := fun _ _ topic => Message.subject_eq_iff topic

/-- A topic may have dots, empty words and stars. -/
example : Covers "a..*.*" "a..*.12" ∧ ¬Covers "a.*" "a" ∧ ¬Covers "a.*" "a." := by decide

end Settings

/-! ### Runs -/

/-- **Every call of a run** has a subject that the patterns of the settings cover. -/
theorem Dispatcher.Run.covered {β : Type} {a : Assignment β} {C : Nat} {ids : IdStream}
    {h : List Sight} {d : Dispatcher β} {broker : β} {q : Queue Log}
    (capacity : Queue.new? C = some q) (run : Run a (.new broker q ids) h d) :
    ∀ c ∈ History.calls h, a.settings.Holds c.message.subject := by
  intro c hc
  obtain ⟨done, rest, hp⟩ := run.progress capacity
  -- the message is that of a log that was accepted
  obtain ⟨i, t, l, -, hm⟩ := exists_of_mem_messages (hp.mem_messages hc)
  rw [hm]
  exact a.settings.holds_subject ..

end AuditRelay
