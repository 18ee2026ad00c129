import AuditRelay.Proofs.Json.Strings

/-!
# Reading whole numbers

A whole number is written with the digits of its value and no zero in front of them. Reading takes
the digits one after the other into a number, which therefore is the one that was written, and stops
at what ends the value.
-/

namespace AuditRelay.Json

variable {α : Type}

/-- What a digit stands for. -/
def digitValue (c : Char) : Nat :=
  c.toNat - '0'.toNat

/-! ### Digits -/

theorem digit?_char {c : Char} (h : c.isDigit = true) : digit? (.char c) = some (digitValue c) := by
  rw [digit?, if_pos h]
  rfl

/-- What ends a value is no digit. -/
theorem digits_ends {rest : Input} (ends : Ends rest) : digits rest = ([], rest) := by
  rcases ends.cases with rfl | ⟨c, t, rfl, hc⟩
  · rfl
  · rcases hc with rfl | rfl | rfl | rfl | rfl | rfl | rfl <;> rfl

/-- The digits are taken up to what ends the value. -/
theorem digits_append {cs : List Char} (all : ∀ c ∈ cs, c.isDigit = true) {rest : Input}
    (ends : Ends rest) : digits (cs.map .char ++ rest) = (cs.map digitValue, rest) := by
  induction cs with
  | nil => exact digits_ends ends
  | cons c cs ih =>
    rw [List.map_cons, List.cons_append, digits, digit?_char (all c List.mem_cons_self)]
    simp only [ih fun c' hc' => all c' (List.mem_cons_of_mem _ hc')]
    rfl

theorem le_ofDigitChars (n : Nat) (cs : List Char) : n ≤ Nat.ofDigitChars 10 cs n := by
  induction cs generalizing n with
  | nil => exact Nat.le_refl n
  | cons c cs ih =>
    rw [Nat.ofDigitChars_cons]
    have step := ih (10 * n + (c.toNat - '0'.toNat))
    omega

/-- Digits are taken as long as the number is small enough. -/
theorem absorb_of_lt {bound n : Nat} {cs : List Char} (small : Nat.ofDigitChars 10 cs n < bound) :
    Number.absorb bound n (cs.map digitValue) = (Nat.ofDigitChars 10 cs n, []) := by
  induction cs generalizing n with
  | nil => rfl
  | cons c cs ih =>
    rw [Nat.ofDigitChars_cons] at small ⊢
    have step : 10 * n + digitValue c < bound := Nat.lt_of_le_of_lt (le_ofDigitChars _ cs) small
    rw [List.map_cons, Number.absorb, if_pos step]
    exact ih small

/-! ### The digits of a number -/

/-- There is no zero in front of other digits. -/
theorem toDigits_head (n : Nat) (positive : 0 < n) :
    ∃ c cs, Nat.toDigits 10 n = c :: cs ∧ c ≠ '0' := by
  induction n using Nat.strongRecOn with
  | ind n ih =>
    rw [Nat.toDigits_eq_if (by decide)]
    split
    · next hlt =>
      exact ⟨_, [], rfl, fun h => Nat.ne_of_gt positive (Nat.digitChar_eq_zero.mp h)⟩
    · next hge =>
      obtain ⟨c, cs, hdigits, hc⟩ := ih (n / 10) (by omega) (by omega)
      exact ⟨c, cs ++ [Nat.digitChar (n % 10)], by rw [hdigits]; rfl, hc⟩

theorem digitValue_pos {c : Char} (digit : c.isDigit = true) (nonzero : c ≠ '0') :
    0 < digitValue c := by
  rw [Char.isDigit, Bool.and_eq_true, decide_eq_true_eq, decide_eq_true_eq] at digit
  have low : '0'.toNat ≤ c.toNat := digit.1
  have ne : c.toNat ≠ '0'.toNat := fun h => nonzero (Char.toNat_inj.mp h)
  rw [digitValue]
  omega

/-- A number that begins with a zero is zero. -/
theorem toDigits_of_zero {n : Nat} {c : Char} {cs : List Char}
    (digits : Nat.toDigits 10 n = c :: cs) (zero : digitValue c = 0) : cs = [] := by
  have digit : c.isDigit = true :=
    Nat.isDigit_of_mem_toDigits (by decide) (by decide) (digits ▸ List.mem_cons_self)
  rcases Nat.eq_zero_or_pos n with rfl | hpos
  · rw [Nat.toDigits_zero] at digits
    exact (List.cons.inj digits).2.symm
  · obtain ⟨c', cs', hdigits, hc'⟩ := toDigits_head n hpos
    obtain ⟨rfl, rfl⟩ := List.cons.inj (digits.symm.trans hdigits)
    exact absurd zero (Nat.ne_of_gt (digitValue_pos digit hc'))

/-- A number is written with a first digit and others. -/
theorem ofString_repr (n : Nat) :
    ∃ c cs, Nat.toDigits 10 n = c :: cs ∧ Mark.ofString n.repr = .char c :: cs.map .char ∧
      c.isDigit = true ∧ ∀ c' ∈ cs, c'.isDigit = true := by
  have all : ∀ c ∈ Nat.toDigits 10 n, c.isDigit = true := fun c hc =>
    Nat.isDigit_of_mem_toDigits (by decide) (by decide) hc
  cases hdigits : Nat.toDigits 10 n with
  | nil => exact absurd hdigits Nat.toDigits_ne_nil
  | cons c cs =>
    rw [hdigits] at all
    refine ⟨c, cs, rfl, ?_, all c List.mem_cons_self,
      fun c' hc' => all c' (List.mem_cons_of_mem _ hc')⟩
    rw [Mark.ofString, Nat.toList_repr, hdigits]
    rfl

theorem afterWhole_ends (positive : Bool) (n : Nat) {rest : Input} (ends : Ends rest) :
    afterWhole positive n 0 rest = .ok (Number.ofDigits positive n, rest) := by
  rcases ends.cases with rfl | ⟨c, t, rfl, hc⟩
  · rfl
  · rcases hc with rfl | rfl | rfl | rfl | rfl | rfl | rfl <;> rfl

/-- **The digits of a number are read.** -/
theorem number_repr (positive : Bool) {n : Nat} (small : n < UInt64.size) {rest : Input}
    (ends : Ends rest) :
    number positive (Mark.ofString n.repr ++ rest) = .ok (Number.ofDigits positive n, rest) := by
  obtain ⟨c, cs, hdigits, text, digit, others⟩ := ofString_repr n
  have tail : digits (cs.map .char ++ rest) = (cs.map digitValue, rest) := digits_append others ends
  -- the first digit is the number that the others are taken into
  have whole : Nat.ofDigitChars 10 cs (digitValue c) = n := by
    have value : Nat.ofDigitChars 10 (Nat.toDigits 10 n) 0 = n := Nat.ofDigitChars_ten_toDigits
    rw [hdigits, Nat.ofDigitChars_cons, Nat.mul_zero, Nat.zero_add] at value
    exact value
  have taken : Number.absorb Number.wordBound (digitValue c) (cs.map digitValue) = (n, []) := by
    rw [absorb_of_lt (by rw [whole]; exact small), whole]
  -- a zero in front of other digits would be a mistake, but none is written
  have lone : ¬(digitValue c = 0 ∧ cs.map digitValue ≠ []) := by
    rintro ⟨zero, more⟩
    rw [toDigits_of_zero hdigits zero] at more
    exact more rfl
  rw [text, List.cons_append, number]
  simp only [digit?_char digit, tail, if_neg lone, taken]
  exact afterWhole_ends positive n ends

/-! ### Whole numbers of a fixed size -/

/-- The digits of a number are taken for what is made of it. -/
theorem takes_numeric (expected : String) {accept : Number → Except Mismatch α} {n : Nat} {a : α}
    (small : n < UInt64.size) (accepted : accept (.whole n) = .ok a) :
    Takes (numeric expected accept) (Mark.ofString n.repr) a := by
  obtain ⟨c, cs, -, text, digit, -⟩ := ofString_repr n
  have value : (digit? (.char c)).isSome = true := by
    rw [digit?_char digit]
    rfl
  have notBracket : Mark.char c ≠ .char ']' := by
    rintro ⟨⟩
    cases digit
  have notMinus : Mark.char c ≠ .char '-' := by
    rintro ⟨⟩
    cases digit
  refine ⟨⟨_, _, text, isSpace_digit value, notBracket⟩, fun {s rest} blank ends => ?_⟩
  have read := number_repr true small ends
  rw [text, List.cons_append] at read ⊢
  rw [numeric, bind_ok (valueStart_blank blank (isSpace_digit value) _)]
  simp only [value, if_true]
  rw [bind_ok read, Number.ofDigits, if_pos rfl, accepted]
  rfl

/-- The same behind a sign. -/
theorem takes_negative (expected : String) {accept : Number → Except Mismatch α} {n : Nat}
    {a : α} (small : n < UInt64.size) (accepted : accept (Number.ofDigits false n) = .ok a) :
    Takes (numeric expected accept) (Mark.ofString ("-" ++ n.repr)) a := by
  have sign : Mark.ofString ("-" ++ n.repr) = .char '-' :: Mark.ofString n.repr := by
    rw [Mark.ofString_append]
    rfl
  rw [sign]
  refine ⟨⟨_, _, rfl, rfl, by decide⟩, fun {s rest} blank ends => ?_⟩
  have read := number_repr false small ends
  rw [List.cons_append, numeric, bind_ok (valueStart_blank blank rfl _)]
  simp only
  rw [bind_ok (advance_cons _ _), bind_ok read, accepted]
  rfl

/-- **A whole number below a bound is taken.** -/
theorem takes_unsigned (expected : String) {bound n : Nat} (fits : bound ≤ UInt64.size)
    (small : n < bound) : Takes (unsigned bound expected) (Mark.ofString n.repr) n :=
  takes_numeric expected (Nat.lt_of_lt_of_le small fits) (if_pos small)

/-- **A whole number of 64 bits with a sign is taken**, from the least to the greatest. -/
theorem takes_signed (t : Int64) : Takes signed (Mark.ofString (toString t.toInt)) t.toInt := by
  have low := t.le_toInt
  have high := t.toInt_lt
  generalize t.toInt = i at low high ⊢
  -- the least number is as far from zero as no positive one, so the bounds differ with the sign
  cases i with
  | ofNat n =>
    have small : n < UInt64.size / 2 := by
      change n < 2 ^ 63
      exact Int.ofNat_lt.mp high
    exact takes_numeric "i64" (Nat.lt_of_lt_of_le small (by decide)) (if_pos small)
  | negSucc n =>
    have small : n + 1 ≤ UInt64.size / 2 := by
      change n + 1 ≤ 2 ^ 63
      omega
    have accepted : asSigned "i64" (Number.ofDigits false (n + 1)) = .ok (Int.negSucc n) := by
      have fits : ¬(n + 1 = 0 ∨ UInt64.size / 2 < n + 1) := by omega
      rw [Number.ofDigits, if_neg Bool.false_ne_true, if_neg fits]
      rfl
    exact takes_negative "i64" (Nat.lt_of_le_of_lt small (by decide)) accepted

end AuditRelay.Json
