/-!
# Ids of logs

An id is a number of 122 bits that is written as 32 hexadecimal digits in five groups, with the
digit `7` for the version and a variant digit from `8` to `b` in fixed places. The leading 48 bits
tell the time in milliseconds.

Where ids come from is a stream of texts (`IdStream`), and nothing is settled here about the texts:
that they ascend, that no two are the same or that none is empty is said where it matters.
`IdSource` is one such stream, which counts.
-/

namespace AuditRelay

namespace Id

/-- The last `count` hexadecimal digits of a number. -/
def digits (n : Nat) : (count : Nat) → List Char
  | 0 => []
  | count + 1 => digits (n / 16) count ++ [Nat.digitChar (n % 16)]

/-- Number of characters of an id. -/
def length : Nat := 36

/-- The id of a number. -/
def text (n : Nat) : String :=
  let time := n >>> 74
  String.ofList (
    digits (time >>> 16) 8 ++ '-' :: digits time 4
      ++ '-' :: '7' :: digits (n >>> 62) 3
      ++ '-' :: digits (0x8000 + (n >>> 48) % 0x4000) 4
      ++ '-' :: digits n 12)

theorem length_digits (n count : Nat) : (digits n count).length = count := by
  induction count generalizing n with
  | zero => rfl
  | succ count ih => rw [digits, List.length_append, ih, List.length_singleton]

theorem length_text (n : Nat) : (text n).length = length := by
  rw [text, String.length_ofList]
  simp only [List.length_append, List.length_cons, length_digits]
  rfl

/-- Whether a text has the form of an id. -/
def isId (s : String) : Bool :=
  let cs := s.toList
  let group (cs : List Char) := cs.all fun c => c.isDigit || ('a' ≤ c && c ≤ 'f')
  let place (n : Nat) := cs[n]?
  cs.length == length && place 8 == some '-' && place 13 == some '-' && place 18 == some '-'
    && place 23 == some '-' && place 14 == some '7'
    && [some '8', some '9', some 'a', some 'b'].contains (place 19)
    && group (cs.filter (· ≠ '-')) && (cs.filter (· ≠ '-')).length == 32

end Id

/-- The ids that are drawn one after the other, whatever they are. -/
@[ext] structure IdStream where
  /-- The id that is drawn when so many were drawn before. -/
  nth : Nat → String

namespace IdStream

/-- What is left when some ids were drawn. -/
def drop (s : IdStream) (count : Nat) : IdStream :=
  ⟨fun i => s.nth (count + i)⟩

/-- Draws an id. -/
def draw (s : IdStream) : String × IdStream :=
  (s.nth 0, s.drop 1)

/-- Draws some ids. -/
def drawMany (count : Nat) (s : IdStream) : List String :=
  (List.range count).map s.nth

@[simp] theorem drop_zero (s : IdStream) : s.drop 0 = s :=
  IdStream.ext (funext fun i => congrArg s.nth (Nat.zero_add i))

@[simp] theorem drop_drop (s : IdStream) (m n : Nat) : (s.drop m).drop n = s.drop (m + n) :=
  IdStream.ext (funext fun i => congrArg s.nth (Nat.add_assoc m n i).symm)

@[simp] theorem drawMany_zero (s : IdStream) : s.drawMany 0 = [] := rfl

@[simp] theorem length_drawMany (count : Nat) (s : IdStream) :
    (s.drawMany count).length = count := by
  rw [drawMany, List.length_map, List.length_range]

/-- Ids that are drawn at two times are drawn one after the other. -/
theorem drawMany_add (s : IdStream) (m n : Nat) :
    s.drawMany (m + n) = s.drawMany m ++ (s.drop m).drawMany n := by
  rw [drawMany, List.range_add, List.map_append, List.map_map]
  rfl

/-- Whether so many ids ascend. -/
def Ascends (s : IdStream) (count : Nat) : Prop :=
  (s.drawMany count).Pairwise (· < ·)

/-- The first ids stay the first ones. -/
theorem drawMany_prefix (s : IdStream) {m n : Nat} (le : m ≤ n) :
    s.drawMany m <+: s.drawMany n := by
  obtain ⟨rest, rfl⟩ := Nat.exists_eq_add_of_le le
  rw [drawMany_add]
  exact List.prefix_append ..

end IdStream

/-- A source of ids that counts: the number of the next one. -/
structure IdSource where
  next : Nat
  deriving DecidableEq, Repr

namespace IdSource

/-- Draws an id. -/
def draw (s : IdSource) : String × IdSource :=
  (Id.text s.next, ⟨s.next + 1⟩)

/-- Draws some ids. -/
def drawMany : (count : Nat) → IdSource → List String
  | 0, _ => []
  | count + 1, s => s.draw.1 :: drawMany count s.draw.2

/-- All ids that are still to be drawn. -/
def stream (s : IdSource) : IdStream :=
  ⟨fun i => Id.text (s.next + i)⟩

instance : Coe IdSource IdStream := ⟨stream⟩

/-- A source draws the ids of its stream. -/
theorem drawMany_stream (count : Nat) (s : IdSource) :
    s.stream.drawMany count = s.drawMany count := by
  induction count generalizing s with
  | zero => rfl
  | succ count ih =>
    have rest : s.stream.drop 1 = s.draw.2.stream :=
      IdStream.ext (funext fun i => congrArg Id.text (Nat.add_assoc s.next 1 i).symm)
    rw [Nat.add_comm, IdStream.drawMany_add, rest, ih, Nat.add_comm]
    rfl

end IdSource

/-- The ids of a source that counts from the beginning. -/
def IdStream.counted : IdStream := IdSource.stream ⟨0⟩

/-- Whether texts come in ascending order, each one once. -/
def Id.ascending : List String → Bool
  | a :: b :: rest => a < b && ascending (b :: rest)
  | _ => true

end AuditRelay
