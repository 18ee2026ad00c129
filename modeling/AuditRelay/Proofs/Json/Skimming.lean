import AuditRelay.Proofs.Json.Strings

/-!
# Passing over values

The value of a member that nobody asked for is passed over by a machine that looks at one mark after
the other, with a stack of the lists and objects that are open. From where a value is expected it
comes to where a value was read, with the same stack, over every text of a value
(`ValueText.pass_value`). So `skim` takes every such text (`takes_skim`), however deep it is nested.

The induction is on the text. What a list and an object have in common — a first item or none, and
others behind commas — is said once for both (`pass_separated`).
-/

namespace AuditRelay.Json

variable {e e' : Expecting} {stack : List Frame}

theorem pass_take (e' : Expecting) (stack' : List Frame) {m : Mark} {s : Input}
    (taken : judge e stack m s = .take e' stack') : pass e stack (m :: s) = pass e' stack' s := by
  rw [pass, taken]

/-- Marks that are all taken without a change. -/
theorem pass_all {p : Mark → Bool}
    (taken : ∀ m s, p m = true → judge e stack m s = .take e stack) {t : Input}
    (all : ∀ m ∈ t, p m = true) (rest : Input) : pass e stack (t ++ rest) = pass e stack rest := by
  induction t with
  | nil => rfl
  | cons m t ih =>
    rw [List.cons_append, pass_take _ _ (taken m _ (all m List.mem_cons_self))]
    exact ih fun m' hm' => all m' (List.mem_cons_of_mem _ hm')

/-! ### Strings -/

/-- A character of a string that stands for itself. -/
theorem pass_char {isKey : Bool} {c : Char} (quote : c ≠ '\"') (backslash : c ≠ '\\')
    (control : ¬c.toNat < 0x20) (rest : Input) :
    pass (.string isKey) stack (.char c :: rest) = pass (.string isKey) stack rest := by
  refine pass_take _ _ ?_
  simp only [judge, if_neg quote, if_neg backslash, if_neg control]

theorem HexDigit.pass_digit {isKey : Bool} {n : Nat} {c : Char} (digit : HexDigit n c)
    (rest : Input) :
    pass (.string isKey) stack (.char c :: rest) = pass (.string isKey) stack rest := by
  have plain : ∀ n < 16, (hexDigit n ≠ '\"' ∧ hexDigit n ≠ '\\' ∧ ¬(hexDigit n).toNat < 0x20) ∧
      (hexDigit n).toUpper ≠ '\"' ∧ (hexDigit n).toUpper ≠ '\\' ∧
        ¬(hexDigit n).toUpper.toNat < 0x20 := by
    decide
  cases digit with
  | lower small => exact pass_char (plain n small).1.1 (plain n small).1.2.1 (plain n small).1.2.2 _
  | upper small => exact pass_char (plain n small).2.1 (plain n small).2.2.1 (plain n small).2.2.2 _

/-- A character that is given by a number. Its digits are looked at once behind the backslash, and
then they are passed like others. -/
theorem Hex.pass_number {isKey : Bool} {n : Nat} {ds : Input} (hex : Hex n ds) (rest : Input) :
    pass (.string isKey) stack (.char '\\' :: .char 'u' :: (ds ++ rest))
      = pass (.string isKey) stack rest := by
  obtain ⟨a, b, c, d, shape, value⟩ := hex.hex4?_eq
  rw [pass_take (.escape isKey) stack rfl,
    pass_take (.string isKey) stack (by subst shape; simp [judge, value])]
  cases hex with
  | digits first second third last =>
    change pass _ _ (_ :: _ :: _ :: _ :: rest) = _
    rw [first.pass_digit, second.pass_digit, third.pass_digit, last.pass_digit]

theorem Spelling.pass_spelling {isKey : Bool} {c : Char} {t : Input} (spelling : Spelling c t)
    (rest : Input) :
    pass (.string isKey) stack (t ++ rest) = pass (.string isKey) stack rest := by
  cases spelling with
  | plain quote backslash visible =>
    exact pass_char quote backslash (Nat.not_lt.mpr visible) rest
  | @short e form =>
    simp only [shortForms, List.mem_cons, List.not_mem_nil, Prod.mk.injEq, or_false] at form
    rcases form with ⟨rfl, rfl⟩ | ⟨rfl, rfl⟩ | ⟨rfl, rfl⟩ | ⟨rfl, rfl⟩ | ⟨rfl, rfl⟩ | ⟨rfl, rfl⟩ |
      ⟨rfl, rfl⟩ | ⟨rfl, rfl⟩ <;> rfl
  | number digits => exact digits.pass_number rest
  | pair _ leading trailing =>
    rw [List.cons_append, List.cons_append, List.append_assoc, leading.pass_number]
    exact trailing.pass_number rest

theorem Glyphs.pass_glyphs {isKey : Bool} {t : Input} (glyphs : Glyphs t) (rest : Input) :
    pass (.string isKey) stack (t ++ rest) = pass (.string isKey) stack rest := by
  induction glyphs with
  | nil => rfl
  | spelling first _ ih => rw [List.append_assoc, first.pass_spelling, ih]
  | number digits _ ih =>
    rw [List.cons_append, List.cons_append, List.append_assoc, digits.pass_number, ih]

/-- What a string leads to, once its opening quote was taken. -/
theorem Glyphs.pass_quoted {isKey : Bool} {t : Input} (glyphs : Glyphs t) (rest : Input) :
    pass (.string isKey) stack (t ++ .char '\"' :: rest)
      = pass (if isKey then .colon else afterValue stack) stack rest := by
  rw [glyphs.pass_glyphs, pass_take _ _ rfl]

/-! ### Numbers -/

/-- Where a number may end. -/
inductive Resting : Expecting → Prop where
  | zero : Resting .zero
  | digits : Resting .digits
  | fraction : Resting .fractionDigits
  | exponent : Resting .exponentDigits

/-- What ends a number is looked at as if a value had been read. -/
theorem Resting.pass_ends (resting : Resting e) {rest : Input} (ends : Ends rest) :
    pass e stack rest = pass (afterValue stack) stack rest := by
  have same : ∀ m s, judge e stack m s = closeOrComma stack m s →
      pass e stack (m :: s) = pass (afterValue stack) stack (m :: s) := by
    intro m s h
    rw [pass, pass, h]
    cases stack <;> rfl
  rcases ends.cases with rfl | ⟨c, t, rfl, hc⟩
  · cases resting <;> cases stack <;> rfl
  · refine same _ _ ?_
    rcases hc with rfl | rfl | rfl | rfl | rfl | rfl | rfl <;> cases resting <;> rfl

theorem pass_whole {t : Input} (whole : WholeText t) (stack : List Frame) (rest : Input) :
    ∃ e, (e = .zero ∨ e = .digits) ∧ pass .whole stack (t ++ rest) = pass e stack rest := by
  cases whole with
  | zero => exact ⟨.zero, Or.inl rfl, pass_take _ _ rfl⟩
  | digits digits leading =>
    refine ⟨.digits, Or.inr rfl, ?_⟩
    obtain ⟨nonempty, all⟩ := digits
    cases t with
    | nil => exact absurd rfl nonempty
    | cons m t =>
      have notZero : m ≠ .char '0' := fun h => leading (by rw [h]; rfl)
      have digit := all m List.mem_cons_self
      rw [List.cons_append, pass_take .digits stack
        (by simp only [judge, if_neg notZero, if_pos digit])]
      refine pass_all (fun m' s h => ?_) (fun m' hm' => all m' (List.mem_cons_of_mem _ hm')) rest
      simp only [judge, if_pos h]

/-- One digit or more, where a first one is expected. -/
theorem Digits.pass_digits {t : Input} (digits : Digits t)
    (first : ∀ m s, (digit? m).isSome = true → judge e stack m s = .take e' stack)
    (more : ∀ m s, (digit? m).isSome = true → judge e' stack m s = .take e' stack)
    (rest : Input) : pass e stack (t ++ rest) = pass e' stack rest := by
  obtain ⟨nonempty, all⟩ := digits
  cases t with
  | nil => exact absurd rfl nonempty
  | cons m t =>
    rw [List.cons_append, pass_take _ _ (first m _ (all m List.mem_cons_self))]
    exact pass_all more (fun m' hm' => all m' (List.mem_cons_of_mem _ hm')) rest

theorem pass_fraction {t : Input} (fraction : FractionText t) (start : e = .zero ∨ e = .digits)
    (stack : List Frame) (rest : Input) :
    ∃ e', (e' = .zero ∨ e' = .digits ∨ e' = .fractionDigits) ∧
      pass e stack (t ++ rest) = pass e' stack rest := by
  cases fraction with
  | none => exact ⟨e, start.imp_right Or.inl, rfl⟩
  | point digits =>
    refine ⟨.fractionDigits, Or.inr (Or.inr rfl), ?_⟩
    have point : ∀ s, judge e stack (.char '.') s = .take .fraction stack := by
      intro s
      rcases start with rfl | rfl <;> rfl
    rw [List.cons_append, pass_take _ _ (point _)]
    exact digits.pass_digits (fun m s h => by simp only [judge, if_pos h])
      (fun m s h => by simp only [judge, if_pos h]) rest

theorem pass_exponent {t : Input} (exponent : ExponentText t)
    (start : e = .zero ∨ e = .digits ∨ e = .fractionDigits) (stack : List Frame) (rest : Input) :
    ∃ e', Resting e' ∧ pass e stack (t ++ rest) = pass e' stack rest := by
  cases exponent with
  | none =>
    refine ⟨e, ?_, rfl⟩
    rcases start with rfl | rfl | rfl
    · exact .zero
    · exact .digits
    · exact .fraction
  | @exponent letter s t hletter sign digits =>
    refine ⟨.exponentDigits, .exponent, ?_⟩
    have taken : ∀ s, judge e stack (.char letter) s = .take .exponent stack := by
      intro s
      rcases hletter with rfl | rfl <;> rcases start with rfl | rfl | rfl <;> rfl
    have more : ∀ m s, (digit? m).isSome = true →
        judge .exponentDigits stack m s = .take .exponentDigits stack := fun m s h => by
      simp only [judge, if_pos h]
    rw [List.cons_append, pass_take _ _ (taken _), List.append_assoc]
    cases sign with
    | none =>
      refine digits.pass_digits (fun m s h => ?_) more rest
      have unsigned : ¬(m = .char '+' ∨ m = .char '-') := by
        rintro (rfl | rfl) <;> cases h
      simp only [judge, if_neg unsigned, if_pos h]
    | plus =>
      rw [List.cons_append, List.nil_append, pass_take .exponentSigned stack rfl]
      exact digits.pass_digits (fun m s h => by simp only [judge, if_pos h]) more rest
    | minus =>
      rw [List.cons_append, List.nil_append, pass_take .exponentSigned stack rfl]
      exact digits.pass_digits (fun m s h => by simp only [judge, if_pos h]) more rest

/-- The first mark of a number without a sign. -/
theorem WholeText.head {t : Input} (whole : WholeText t) :
    ∃ m u, t = m :: u ∧ (digit? m).isSome = true := by
  cases whole with
  | zero => exact ⟨_, _, rfl, rfl⟩
  | digits digits _ =>
    obtain ⟨nonempty, all⟩ := digits
    cases t with
    | nil => exact absurd rfl nonempty
    | cons m t => exact ⟨m, t, rfl, all m List.mem_cons_self⟩

/-- A number may begin with any digit where a value is expected. -/
theorem judge_digit {m : Mark} (digit : (digit? m).isSome = true) (s : Input) :
    judge .value stack m s = judge .whole stack m s := by
  simp only [judge, isSpace_digit digit, Bool.false_eq_true, if_false, startValue]
  split
  case h_5 => rfl
  case h_9 zero _ _ _ => simp only [if_neg zero, if_pos digit]
  all_goals cases digit

theorem NumberText.pass_number {t : Input} (number : NumberText t) {rest : Input}
    (ends : Ends rest) : pass .value stack (t ++ rest) = pass (afterValue stack) stack rest := by
  -- behind its sign, a number is three texts that are passed one after the other
  have parts : ∀ {t f e : Input}, WholeText t → FractionText f → ExponentText e →
      pass .whole stack ((t ++ (f ++ e)) ++ rest) = pass (afterValue stack) stack rest := by
    intro t f e whole fraction exponent
    obtain ⟨e₁, start, h₁⟩ := pass_whole whole stack (f ++ (e ++ rest))
    obtain ⟨e₂, start', h₂⟩ := pass_fraction fraction start stack (e ++ rest)
    obtain ⟨e₃, resting, h₃⟩ := pass_exponent exponent start' stack rest
    rw [List.append_assoc, List.append_assoc, h₁, h₂, h₃, resting.pass_ends ends]
  cases number with
  | positive whole fraction exponent =>
    rw [← parts whole fraction exponent]
    obtain ⟨m, u, rfl, digit⟩ := whole.head
    change pass .value stack (m :: _) = pass .whole stack (m :: _)
    rw [pass, pass, judge_digit digit]
  | negative whole fraction exponent =>
    rw [List.cons_append, pass_take .whole stack rfl]
    exact parts whole fraction exponent

/-! ### Lists and objects -/

namespace Frame

/-- What is expected in a list or object that was opened. -/
def opened : Frame → Expecting
  | list => .firstItem
  | object => .firstKey

/-- What is expected behind a comma. -/
def more : Frame → Expecting
  | list => .value
  | object => .nextKey

/-- The closing bracket. -/
def close : Frame → Mark
  | list => .char ']'
  | object => .char '}'

theorem pass_opened (frame : Frame) {s : Input} (blank : Blank s) (rest : Input) :
    pass frame.opened stack (s ++ rest) = pass frame.opened stack rest := by
  refine pass_all (fun m s h => ?_) blank rest
  cases frame <;> simp only [opened, judge, if_pos h]

theorem pass_more (frame : Frame) {s : Input} (blank : Blank s) (rest : Input) :
    pass frame.more stack (s ++ rest) = pass frame.more stack rest := by
  refine pass_all (fun m s h => ?_) blank rest
  cases frame <;> simp only [more, judge, if_pos h]

theorem pass_next (frame : Frame) {s : Input} (blank : Blank s) (rest : Input) :
    pass .next (frame :: stack) (s ++ rest) = pass .next (frame :: stack) rest := by
  refine pass_all (fun m s h => ?_) blank rest
  simp only [judge, closeOrComma, if_pos h]

end Frame

variable (frame : Frame)

/-- The items behind the first one, and what closes them. -/
theorem pass_behind {ts : List Input} {u : Input} (behind : Behind ts u)
    (items : ∀ t ∈ ts, ∀ rest, Ends rest →
      pass frame.more (frame :: stack) (t ++ rest) = pass .next (frame :: stack) rest)
    (rest : Input) :
    pass .next (frame :: stack) (u ++ frame.close :: rest) = pass (afterValue stack) stack rest := by
  induction behind with
  | nil blank =>
    rw [frame.pass_next blank]
    cases frame <;> exact pass_take _ _ rfl
  | @cons t s s' u ts before after rest' ih =>
    have ends : Ends (u ++ frame.close :: rest) := by
      refine rest'.ends ?_
      cases frame
      · exact .listEnd rest
      · exact .objectEnd rest
    have comma : pass .next (frame :: stack) (.char ',' :: (s' ++ (t ++ (u ++ frame.close :: rest))))
        = pass frame.more (frame :: stack) (s' ++ (t ++ (u ++ frame.close :: rest))) := by
      cases frame <;> exact pass_take _ _ rfl
    rw [List.append_assoc, frame.pass_next before, List.cons_append, List.append_assoc,
      List.append_assoc, comma, frame.pass_more after, items t List.mem_cons_self _ ends]
    exact ih fun t' ht' => items t' (List.mem_cons_of_mem _ ht')

/-- **Items with commas between them**, and what closes them. -/
theorem pass_separated {ts : List Input} {u : Input} (separated : Separated ts u)
    (items : ∀ t ∈ ts, ∀ rest, Ends rest →
      pass frame.opened (frame :: stack) (t ++ rest) = pass .next (frame :: stack) rest ∧
        pass frame.more (frame :: stack) (t ++ rest) = pass .next (frame :: stack) rest)
    (rest : Input) :
    pass frame.opened (frame :: stack) (u ++ frame.close :: rest)
      = pass (afterValue stack) stack rest := by
  cases separated with
  | nil blank =>
    rw [frame.pass_opened blank]
    cases frame <;> exact pass_take _ _ rfl
  | @cons t s u ts blank behind =>
    have ends : Ends (u ++ frame.close :: rest) := by
      refine behind.ends ?_
      cases frame
      · exact .listEnd rest
      · exact .objectEnd rest
    rw [List.append_assoc, frame.pass_opened blank, List.append_assoc,
      (items t List.mem_cons_self _ ends).1]
    exact pass_behind frame behind
      (fun t' ht' rest' ends' => (items t' (List.mem_cons_of_mem _ ht') rest' ends').2) rest

theorem exists_member {κ : Type} {names : κ → Input → Prop} {ms : List (κ × Input)}
    {ts : List Input} (members : List.Forall₂ (Member names) ms ts) {t : Input} (ht : t ∈ ts) :
    ∃ m ∈ ms, Member names m t := by
  induction members with
  | nil => exact absurd ht List.not_mem_nil
  | @cons m t' ms ts first _ ih =>
    rcases List.mem_cons.mp ht with rfl | ht
    · exact ⟨m, List.mem_cons_self, first⟩
    · obtain ⟨m', hm', member⟩ := ih ht
      exact ⟨m', List.mem_cons_of_mem _ hm', member⟩

/-- A member: its key, the colon and its value. -/
theorem pass_member {m : Unit × Input} {t : Input} (member : Member (fun _ => Glyphs) m t)
    {rest : Input}
    (value : pass .value (.object :: stack) (m.2 ++ rest) = pass .next (.object :: stack) rest) :
    pass .firstKey (.object :: stack) (t ++ rest) = pass .next (.object :: stack) rest ∧
      pass .nextKey (.object :: stack) (t ++ rest) = pass .next (.object :: stack) rest := by
  cases member with
  | @member k s s' name before behind =>
    have colon : pass .colon (.object :: stack) (s ++ .char ':' :: (s' ++ (m.2 ++ rest)))
        = pass .next (.object :: stack) rest := by
      rw [pass_all (fun m s h => by simp only [judge, if_pos h]) before,
        pass_take .value (.object :: stack) rfl,
        pass_all (fun m s h => by simp only [judge, if_pos h]) behind, value]
    have key : pass (.string true) (.object :: stack)
        (k ++ .char '\"' :: (s ++ .char ':' :: (s' ++ (m.2 ++ rest))))
        = pass .next (.object :: stack) rest := by
      rw [Glyphs.pass_quoted name]
      exact colon
    have shape : .char '\"' :: (k ++ .char '\"' :: (s ++ .char ':' :: (s' ++ m.2))) ++ rest
        = .char '\"' :: (k ++ .char '\"' :: (s ++ .char ':' :: (s' ++ (m.2 ++ rest)))) := by
      simp only [List.cons_append, List.append_assoc]
    rw [shape]
    exact ⟨(pass_take _ _ rfl).trans key, (pass_take _ _ rfl).trans key⟩

/-! ### Values -/

/-- No value begins with space or with the end of a list. -/
theorem ValueText.visible {t : Input} (value : ValueText t) : Visible t := by
  cases value with
  | null => exact ⟨.char 'n', _, rfl, rfl, by decide⟩
  | bool b => cases b <;> exact ⟨_, _, rfl, rfl, by decide⟩
  | number number =>
    cases number with
    | positive whole _ _ =>
      obtain ⟨m, u, rfl, digit⟩ := whole.head
      exact ⟨m, _, rfl, isSpace_digit digit, fun h => by rw [h] at digit; cases digit⟩
    | negative _ _ _ => exact ⟨.char '-', _, rfl, rfl, by decide⟩
  | string _ => exact ⟨.char '\"', _, rfl, rfl, by decide⟩
  | list _ _ => exact ⟨.char '[', _, rfl, rfl, by decide⟩
  | object _ _ => exact ⟨.char '{', _, rfl, rfl, by decide⟩

/-- Where a first item is expected a value is judged as elsewhere. -/
theorem ValueText.pass_firstItem {t : Input} (value : ValueText t) (rest : Input) :
    pass .firstItem stack (t ++ rest) = pass .value stack (t ++ rest) := by
  obtain ⟨m, u, rfl, space, bracket⟩ := value.visible
  have same : judge .firstItem stack m (u ++ rest) = judge .value stack m (u ++ rest) := by
    simp only [judge, space, Bool.false_eq_true, if_false, if_neg bracket]
  change pass .firstItem stack (m :: (u ++ rest)) = pass .value stack (m :: (u ++ rest))
  rw [pass, pass, same]

/-- **A value is passed over**: behind it a value was read, with the same lists and objects open. -/
theorem ValueText.pass_value {t : Input} (value : ValueText t) (stack : List Frame) {rest : Input}
    (ends : Ends rest) : pass .value stack (t ++ rest) = pass (afterValue stack) stack rest := by
  induction value generalizing stack rest with
  | null => rfl
  | bool b => cases b <;> rfl
  | number number => exact number.pass_number ends
  | string glyphs =>
    rw [List.cons_append, List.append_assoc, pass_take (.string false) stack rfl]
    exact glyphs.pass_quoted rest
  | list items each ih =>
    rw [List.cons_append, List.append_assoc,
      pass_take .firstItem (.list :: stack) rfl]
    refine pass_separated .list items (fun t ht rest' ends' => ?_) rest
    exact ⟨((each t ht).pass_firstItem rest').trans (ih t ht _ ends'), ih t ht _ ends'⟩
  | @object ms u members each ih =>
    obtain ⟨ts, hts, separated⟩ := members
    rw [List.cons_append, List.append_assoc,
      pass_take .firstKey (.object :: stack) rfl]
    refine pass_separated .object separated (fun t ht rest' ends' => ?_) rest
    obtain ⟨m, hm, member⟩ := exists_member hts ht
    exact pass_member member (ih m hm _ ends')

/-- **Every value is skimmed.** -/
theorem takes_skim {t : Input} (value : ValueText t) : Takes skim t () := by
  refine ⟨value.visible, fun {s rest} blank ends => ?_⟩
  have passed : pass .value [] (s ++ (t ++ rest)) = .ok rest := by
    rw [pass_all (fun m s h => by simp only [judge, if_pos h]) blank, value.pass_value [] ends]
    cases rest <;> rfl
  rw [skim, passed]

end AuditRelay.Json
