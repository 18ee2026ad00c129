import AuditRelay.Proofs.Json.Grammar
import Mathlib.Data.List.TakeWhile

/-!
# Reading strings

A reader takes a text for a value (`Takes`) if it passes over space, takes just that text from the
front of the input and returns the value, whatever ends the text. What ends it is the end of the
input, space, a comma or a closing bracket (`Ends`); a number could not be told from one that goes
on. A reader refuses a text (`Refuses`) if it stops in it or right behind it, whatever follows.

Strings are taken by the character: however a character is spelled, reading it puts it behind those
that were read before (`content_spelling`).
-/

namespace AuditRelay.Json

variable {α β : Type}

/-- What can stand behind a value. -/
def Ends (rest : Input) : Prop :=
  rest = [] ∨ ∃ m t, rest = m :: t ∧
    (isSpace m = true ∨ m = .char ',' ∨ m = .char ']' ∨ m = .char '}')

/-- A text that does not begin with space, and not as if a list ended before it. -/
def Visible (t : Input) : Prop :=
  ∃ m u, t = m :: u ∧ isSpace m = false ∧ m ≠ .char ']'

/-- **A reader takes a text** for a value, whatever space is before it and whatever ends it. -/
structure Takes (read : Read α) (t : Input) (a : α) : Prop where
  visible : Visible t
  taken {s rest : Input} (blank : Blank s) (ends : Ends rest) :
    read (s ++ (t ++ rest)) = .ok (a, rest)

/-- **A reader refuses a text** because it holds something of the wrong shape, whatever space is
before it and whatever follows. -/
structure Refuses (read : Read α) (t : Input) : Prop where
  visible : Visible t
  refused {s : Input} (blank : Blank s) (rest : Input) :
    ∃ m left, read (s ++ (t ++ rest)) = .error ⟨.mismatch m, left⟩

theorem Ends.nil : Ends [] := Or.inl rfl

theorem Ends.comma (t : Input) : Ends (.char ',' :: t) := Or.inr ⟨_, t, rfl, Or.inr (Or.inl rfl)⟩

theorem Ends.listEnd (t : Input) : Ends (.char ']' :: t) :=
  Or.inr ⟨_, t, rfl, Or.inr (Or.inr (Or.inl rfl))⟩

theorem Ends.objectEnd (t : Input) : Ends (.char '}' :: t) :=
  Or.inr ⟨_, t, rfl, Or.inr (Or.inr (Or.inr rfl))⟩

/-- The marks that end a value. -/
theorem Ends.cases {rest : Input} (ends : Ends rest) :
    rest = [] ∨ ∃ c t, rest = .char c :: t ∧
      (c = ' ' ∨ c = '\n' ∨ c = '\t' ∨ c = '\r' ∨ c = ',' ∨ c = ']' ∨ c = '}') := by
  rcases ends with rfl | ⟨m, t, rfl, space | rfl | rfl | rfl⟩
  · exact Or.inl rfl
  · simp only [isSpace, Bool.or_eq_true, beq_iff_eq] at space
    rcases space with ((rfl | rfl) | rfl) | rfl <;> exact Or.inr ⟨_, t, rfl, by simp⟩
  · exact Or.inr ⟨_, t, rfl, by simp⟩
  · exact Or.inr ⟨_, t, rfl, by simp⟩
  · exact Or.inr ⟨_, t, rfl, by simp⟩

theorem Blank.ends {s rest : Input} (blank : Blank s) (ends : Ends rest) : Ends (s ++ rest) := by
  cases s with
  | nil => exact ends
  | cons m s => exact Or.inr ⟨m, s ++ rest, rfl, Or.inl (blank m List.mem_cons_self)⟩

/-- The items behind the first one are separated from it. -/
theorem Behind.ends {ts : List Input} {u rest : Input} (behind : Behind ts u) (ends : Ends rest) :
    Ends (u ++ rest) := by
  cases behind with
  | nil blank => exact blank.ends ends
  | cons before _ _ =>
    rw [List.append_assoc]
    exact before.ends (.comma _)

/-! ### One reader after the other -/

theorem bind_ok {x : Read α} {f : α → Read β} {s s' : Input} {a : α} (h : x s = .ok (a, s')) :
    (x >>= f) s = f a s' := by
  change (x s >>= fun p => f p.1 p.2) = _
  rw [h]
  rfl

theorem bind_error {x : Read α} (f : α → Read β) {s : Input} {fault : Fault}
    (h : x s = .error fault) : (x >>= f) s = .error fault := by
  change (x s >>= fun p => f p.1 p.2) = _
  rw [h]
  rfl

theorem bind_congr {x : Read α} (f : α → Read β) {s s' : Input} (h : x s = x s') :
    (x >>= f) s = (x >>= f) s' := by
  change (x s >>= fun p => f p.1 p.2) = (x s' >>= fun p => f p.1 p.2)
  rw [h]

theorem Takes.map {read : Read α} {t : Input} {a : α} (f : α → β) (h : Takes read t a) :
    Takes (f <$> read) t (f a) := by
  refine ⟨h.visible, fun {s rest} blank ends => ?_⟩
  change (read _ >>= fun p => pure (f p.1, p.2)) = _
  rw [h.taken blank ends]
  rfl

/-- What is made of a value that was read. -/
theorem Takes.build {read : Read α} {t : Input} {a : α} (h : Takes read t a) (f : α → β) :
    Takes (do let v ← read; pure (f v)) t (f a) := by
  refine ⟨h.visible, fun {s rest} blank ends => ?_⟩
  rw [bind_ok (h.taken blank ends)]
  rfl

theorem Refuses.build {read : Read α} {t : Input} (h : Refuses read t) (f : α → β) :
    Refuses (do let v ← read; pure (f v)) t := by
  refine ⟨h.visible, fun {s} blank rest => ?_⟩
  obtain ⟨m, left, stopped⟩ := h.refused blank rest
  exact ⟨m, left, bind_error _ stopped⟩

/-! ### The next mark -/

/-- What comes next is what stands behind the space. -/
theorem peek_blank {s : Input} (blank : Blank s) {m : Mark} (h : isSpace m = false) (t : Input) :
    peek (s ++ m :: t) = .ok (some m, m :: t) := by
  have skipped : (s ++ m :: t).dropWhile isSpace = m :: t := by
    rw [List.dropWhile_append_of_pos blank, List.dropWhile_cons_of_neg (by rw [h]; decide)]
  simp only [peek, skipped]
  rfl

theorem peek_next {m : Mark} (h : isSpace m = false) (t : Input) :
    peek (m :: t) = .ok (some m, m :: t) :=
  peek_blank .nil h t

/-- Space makes no difference to what looks at the next mark first. -/
theorem bind_peek (f : Option Mark → Read α) {s : Input} (blank : Blank s) (rest : Input) :
    (peek >>= f) (s ++ rest) = (peek >>= f) rest :=
  bind_congr f (by simp only [peek, List.dropWhile_append_of_pos blank])

theorem peek_end {s : Input} (blank : Blank s) : peek s = .ok (none, []) := by
  have skipped : s.dropWhile isSpace = [] := List.dropWhile_eq_nil_iff.mpr blank
  simp only [peek, skipped]
  rfl

theorem valueStart_blank {s : Input} (blank : Blank s) {m : Mark} (h : isSpace m = false)
    (t : Input) : valueStart (s ++ m :: t) = .ok (m, m :: t) := by
  rw [valueStart, bind_ok (peek_blank blank h t)]
  rfl

theorem isSpace_digit {m : Mark} (digit : (digit? m).isSome = true) : isSpace m = false := by
  refine Bool.eq_false_iff.mpr fun space => ?_
  simp only [isSpace, Bool.or_eq_true, beq_iff_eq] at space
  rcases space with ((rfl | rfl) | rfl) | rfl <;> cases digit

theorem advance_cons (m : Mark) (s : Input) : advance (m :: s) = .ok ((), s) := rfl

/-- A text that is taken for a value, with space before it and behind it, holds nothing else. -/
theorem Takes.whole {read : Read α} {t : Input} {a : α} (h : Takes read t a) {s s' : Input}
    (before : Blank s) (behind : Blank s') : (Json.whole read).run (s ++ (t ++ s')) = .ok a := by
  have ends : Ends s' := by
    have := behind.ends .nil
    rwa [List.append_nil] at this
  have hwhole : Json.whole read (s ++ (t ++ s')) = .ok (a, []) := by
    rw [Json.whole, bind_ok (h.taken before ends), bind_ok (peek_end behind)]
    rfl
  rw [Read.run, hwhole]

/-- A text that is refused is no text of a value, whatever follows. -/
theorem Refuses.whole {read : Read α} {t : Input} (h : Refuses read t) {s : Input}
    (blank : Blank s) (rest : Input) :
    ∃ e, (Json.whole read).run (s ++ (t ++ rest)) = .error e ∧ e.category = .mismatched := by
  obtain ⟨m, left, stopped⟩ := h.refused blank rest
  refine ⟨Fault.locate ⟨.mismatch m, left⟩ (s ++ (t ++ rest)), ?_, rfl⟩
  rw [Read.run, Json.whole, bind_error _ stopped]

/-! ### The spellings of a character -/

theorem hexDigit?_hexDigit : ∀ n < 16, hexDigit? (.char (hexDigit n)) = some n := by
  decide

theorem hexDigit?_toUpper : ∀ n < 16, hexDigit? (.char (hexDigit n).toUpper) = some n := by
  decide

theorem HexDigit.hexDigit?_eq {n : Nat} {c : Char} (digit : HexDigit n c) :
    hexDigit? (.char c) = some n := by
  cases digit with
  | lower small => exact hexDigit?_hexDigit n small
  | upper small => exact hexDigit?_toUpper n small

/-- Four digits are read as the number that they are the digits of. -/
theorem Hex.hex4?_eq {n : Nat} {ds : Input} (hex : Hex n ds) :
    ∃ a b c d, ds = [a, b, c, d] ∧ hex4? a b c d = some n := by
  cases hex with
  | @digits i j k l a b c d first second third last =>
    refine ⟨_, _, _, _, rfl, ?_⟩
    rw [hex4?, first.hexDigit?_eq, second.hexDigit?_eq, third.hexDigit?_eq, last.hexDigit?_eq]
    change some ((i * 16 + j) * 256 + k * 16 + l) = _
    congr 1
    omega

/-- A character that stands for itself. -/
theorem content_plain {c : Char} (quote : c ≠ '\"') (backslash : c ≠ '\\')
    (control : ¬c.toNat < 0x20) (done : List Char) (s : Input) :
    content done true (.char c :: s) = content (c :: done) true s := by
  rw [content.eq_def]
  simp only [if_neg quote, if_neg backslash, if_neg control]

/-- A character that is given by its number, which is no half of a pair. -/
theorem content_number {a b c d : Mark} {n : Nat} (digits : hex4? a b c d = some n)
    (single : n < 0xD800 ∨ 0xDFFF < n) (done : List Char) (s : Input) :
    content done true (.char '\\' :: .char 'u' :: a :: b :: c :: d :: s)
      = content (Char.ofNat n :: done) true s := by
  -- the halves of pairs are the numbers from 0xD800 to 0xDFFF
  have trailing : isTrailing n = false := by
    simp only [isTrailing, Bool.and_eq_false_iff, decide_eq_false_iff_not]
    omega
  have leading : isLeading n = false := by
    simp only [isLeading, Bool.and_eq_false_iff, decide_eq_false_iff_not]
    omega
  rw [content.eq_def]
  simp [digits, trailing, leading]

/-- A character that is given by a pair. -/
theorem content_pair {a b c d a' b' c' d' : Mark} {x y : Nat}
    (leading : hex4? a b c d = some (0xD800 + x)) (hx : x < 0x400)
    (trailing : hex4? a' b' c' d' = some (0xDC00 + y)) (hy : y < 0x400) (done : List Char)
    (s : Input) :
    content done true (.char '\\' :: .char 'u' :: a :: b :: c :: d ::
        .char '\\' :: .char 'u' :: a' :: b' :: c' :: d' :: s)
      = content (Char.ofNat (x * 0x400 + y + 0x10000) :: done) true s := by
  have first : isTrailing (0xD800 + x) = false := by
    simp only [isTrailing, Bool.and_eq_false_iff, decide_eq_false_iff_not]
    omega
  have opens : isLeading (0xD800 + x) = true := by
    simp only [isLeading, Bool.and_eq_true, decide_eq_true_eq]
    omega
  have second : isTrailing (0xDC00 + y) = true := by
    simp only [isTrailing, Bool.and_eq_true, decide_eq_true_eq]
    omega
  have pair : ofPair (0xD800 + x) (0xDC00 + y) = Char.ofNat (x * 0x400 + y + 0x10000) := by
    rw [ofPair, Nat.add_sub_cancel_left, Nat.add_sub_cancel_left]
  rw [content.eq_def]
  simp [leading, trailing, first, opens, second, pair]

/-- **However a character is spelled, it is read**, and put behind those that were read before. -/
theorem content_spelling {c : Char} {t : Input} (spelling : Spelling c t) (done : List Char)
    (s : Input) : content done true (t ++ s) = content (c :: done) true s := by
  cases spelling with
  | plain quote backslash visible =>
    exact content_plain quote backslash (Nat.not_lt.mpr visible) done s
  | @short e form =>
    simp only [shortForms, List.mem_cons, List.not_mem_nil, Prod.mk.injEq, or_false] at form
    rcases form with ⟨rfl, rfl⟩ | ⟨rfl, rfl⟩ | ⟨rfl, rfl⟩ | ⟨rfl, rfl⟩ | ⟨rfl, rfl⟩ | ⟨rfl, rfl⟩ |
      ⟨rfl, rfl⟩ | ⟨rfl, rfl⟩ <;> rfl
  | number digits =>
    obtain ⟨x, y, z, w, rfl, value⟩ := digits.hex4?_eq
    -- a character has no number among the halves of pairs
    have single : c.toNat < 0xD800 ∨ 0xDFFF < c.toNat := by
      rcases c.valid with low | high
      · exact Or.inl low
      · exact Or.inr high.1
    exact (content_number value single done s).trans (by rw [Char.ofNat_toNat])
  | pair large leading trailing =>
    obtain ⟨x, y, z, w, rfl, first⟩ := leading.hex4?_eq
    obtain ⟨x', y', z', w', rfl, second⟩ := trailing.hex4?_eq
    have most : c.toNat < 0x110000 := by
      rcases c.valid with low | high
      · exact Nat.lt_trans low (by decide)
      · exact high.2
    refine (content_pair first (by omega) second (by omega) done s).trans ?_
    have whole : (c.toNat - 0x10000) / 0x400 * 0x400 + (c.toNat - 0x10000) % 0x400 + 0x10000
        = c.toNat := by omega
    rw [whole, Char.ofNat_toNat]

/-! ### Strings -/

theorem content_spells {cs : List Char} {t : Input} (spells : Spells cs t) (done : List Char)
    (s : Input) : content done true (t ++ s) = content (cs.reverse ++ done) true s := by
  induction spells generalizing done with
  | nil => rfl
  | cons first _ ih =>
    rw [List.append_assoc, content_spelling first, ih, List.reverse_cons, List.append_assoc]
    rfl

theorem text_quoted {value : String} {t : Input} (spells : Quoted value t) (rest : Input) :
    text (t ++ .char '\"' :: rest) = .ok (value, rest) := by
  rw [text, content_spells spells, content.eq_def]
  simp

/-- A string is read whatever follows it. -/
theorem string_text (expected : String) {value : String} {t : Input} (h : StringText value t)
    {s : Input} (blank : Blank s) (rest : Input) :
    string expected (s ++ (t ++ rest)) = .ok (value, rest) := by
  obtain ⟨spells⟩ := h
  rw [List.cons_append, List.append_assoc, string, bind_ok (valueStart_blank blank rfl _)]
  exact text_quoted spells rest

theorem StringText.visible {value : String} {t : Input} (h : StringText value t) : Visible t := by
  obtain ⟨spells⟩ := h
  exact ⟨_, _, rfl, rfl, by decide⟩

/-- **A string is taken**, however it is spelled. -/
theorem takes_string (expected : String) {value : String} {t : Input} (h : StringText value t) :
    Takes (string expected) t value :=
  ⟨h.visible, fun blank _ => string_text expected h blank _⟩

end AuditRelay.Json
