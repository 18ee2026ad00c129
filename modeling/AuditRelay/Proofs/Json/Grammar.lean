import AuditRelay.Json.Record
import Mathlib.Data.List.Forall2

/-!
# The texts of a value

A value has many texts: there may be space between the parts, a string may hold a character in
several ways, the members of an object come in any order, and a record is an object or a list. This
module says which texts a value has, without saying how they are read.

* `Spells` and `StringText` are the texts of a string, `ValueText` those of any value at all.
* `Separated` is how the items of a list stand behind one another, and `Members` the same for the
  members of an object.
* `Record.Form` are the texts of a record: an object that has the fields of the record among members
  of other names, each of them once (`Record.Fits`), or a list of the fields.
* `Record.Flawed` are texts that would be those of a record but for a flaw: a field that comes twice,
  or one that is missing.
-/

namespace AuditRelay.Json

/-- Space between the parts of a text. -/
def Blank (s : Input) : Prop := ∀ m ∈ s, isSpace m = true

theorem Blank.nil : Blank [] := fun _ hm => absurd hm List.not_mem_nil

/-! ## Strings -/

/-- The characters that have a short form: the letter behind the backslash, and the character. -/
def shortForms : List (Char × Char) :=
  [('\"', '\"'), ('\\', '\\'), ('/', '/'), ('b', '\x08'), ('f', '\x0c'), ('n', '\n'), ('r', '\r'),
    ('t', '\t')]

/-- A hexadecimal digit in either case. -/
inductive HexDigit (n : Nat) : Char → Prop where
  | lower (small : n < 16) : HexDigit n (hexDigit n)
  | upper (small : n < 16) : HexDigit n (hexDigit n).toUpper

/-- The four hexadecimal digits of a number. -/
inductive Hex : Nat → Input → Prop where
  | digits {i j k l : Nat} {a b c d : Char} (first : HexDigit i a) (second : HexDigit j b)
      (third : HexDigit k c) (last : HexDigit l d) :
      Hex (((i * 16 + j) * 16 + k) * 16 + l) [.char a, .char b, .char c, .char d]

/-- How a string may hold a character: as it stands, in its short form, or by its number, which is
split into a pair of surrogates if it has more than four digits. -/
inductive Spelling (c : Char) : Input → Prop where
  | plain (quote : c ≠ '\"') (backslash : c ≠ '\\') (visible : 0x20 ≤ c.toNat) :
      Spelling c [.char c]
  | short {e : Char} (form : (e, c) ∈ shortForms) : Spelling c [.char '\\', .char e]
  | number {ds : Input} (digits : Hex c.toNat ds) : Spelling c (.char '\\' :: .char 'u' :: ds)
  | pair {ds es : Input} (large : 0x10000 ≤ c.toNat)
      (leading : Hex (0xD800 + (c.toNat - 0x10000) / 0x400) ds)
      (trailing : Hex (0xDC00 + (c.toNat - 0x10000) % 0x400) es) :
      Spelling c (.char '\\' :: .char 'u' :: (ds ++ .char '\\' :: .char 'u' :: es))

/-- What stands between the quotes of a string. -/
inductive Spells : List Char → Input → Prop where
  | nil : Spells [] []
  | cons {c : Char} {cs : List Char} {t u : Input} (first : Spelling c t) (rest : Spells cs u) :
      Spells (c :: cs) (t ++ u)

/-- What stands between the quotes of a string of that value. -/
abbrev Quoted (value : String) (t : Input) : Prop := Spells value.toList t

/-- The texts of a string. -/
inductive StringText (value : String) : Input → Prop where
  | quoted {t : Input} (spells : Quoted value t) :
      StringText value (.char '\"' :: (t ++ [.char '\"']))

/-- What stands between the quotes of any string. A number may also be half of a pair. -/
inductive Glyphs : Input → Prop where
  | nil : Glyphs []
  | spelling {c : Char} {t u : Input} (first : Spelling c t) (rest : Glyphs u) : Glyphs (t ++ u)
  | number {n : Nat} {ds u : Input} (digits : Hex n ds) (rest : Glyphs u) :
      Glyphs (.char '\\' :: .char 'u' :: (ds ++ u))

/-! ## Lists and objects -/

/-- What follows an item: a comma and the next item, as often as there are more. -/
inductive Behind : List Input → Input → Prop where
  | nil {s : Input} (blank : Blank s) : Behind [] s
  | cons {t s s' u : Input} {ts : List Input} (before : Blank s) (behind : Blank s')
      (rest : Behind ts u) : Behind (t :: ts) (s ++ .char ',' :: (s' ++ (t ++ u)))

/-- **Items with commas between them**, and space around them. -/
inductive Separated : List Input → Input → Prop where
  | nil {s : Input} (blank : Blank s) : Separated [] s
  | cons {t s u : Input} {ts : List Input} (blank : Blank s) (rest : Behind ts u) :
      Separated (t :: ts) (s ++ (t ++ u))

/-- A member with a key and the text of its value; `names` says how a key is written. -/
inductive Member {κ : Type} (names : κ → Input → Prop) (m : κ × Input) : Input → Prop where
  | member {k s s' : Input} (name : names m.1 k) (before : Blank s) (behind : Blank s') :
      Member names m (.char '\"' :: (k ++ .char '\"' :: (s ++ .char ':' :: (s' ++ m.2))))

/-- **The inside of an object**: its members with commas between them. -/
def Members {κ : Type} (names : κ → Input → Prop) (ms : List (κ × Input)) (u : Input) : Prop :=
  ∃ ts, List.Forall₂ (Member names) ms ts ∧ Separated ts u

/-- **The texts of a table of texts**, entry by entry; a key may occur more than once. -/
inductive TableText (es : List (String × String)) : Input → Prop where
  | object {ms : List (String × Input)} {u : Input}
      (entries : List.Forall₂ (fun e m => e.1 = m.1 ∧ StringText e.2 m.2) es ms)
      (members : Members Quoted ms u) : TableText es (.char '{' :: (u ++ [.char '}']))

/-! ## Values of any shape -/

/-- One digit or more. -/
structure Digits (t : Input) : Prop where
  nonempty : t ≠ []
  digits : ∀ m ∈ t, (digit? m).isSome = true

/-- The digits before the point of a number: a zero is not followed by others. -/
inductive WholeText : Input → Prop where
  | zero : WholeText [.char '0']
  | digits {t : Input} (digits : Digits t) (leading : t.head? ≠ some (.char '0')) : WholeText t

/-- The point of a number and the digits behind it, or nothing. -/
inductive FractionText : Input → Prop where
  | none : FractionText []
  | point {t : Input} (digits : Digits t) : FractionText (.char '.' :: t)

/-- The sign of an exponent, or nothing. -/
inductive SignText : Input → Prop where
  | none : SignText []
  | plus : SignText [.char '+']
  | minus : SignText [.char '-']

/-- The exponent of a number, or nothing. -/
inductive ExponentText : Input → Prop where
  | none : ExponentText []
  | exponent {e : Char} {s t : Input} (letter : e = 'e' ∨ e = 'E') (sign : SignText s)
      (digits : Digits t) : ExponentText (.char e :: (s ++ t))

/-- The texts of numbers. -/
inductive NumberText : Input → Prop where
  | positive {t f e : Input} (whole : WholeText t) (fraction : FractionText f)
      (exponent : ExponentText e) : NumberText (t ++ (f ++ e))
  | negative {t f e : Input} (whole : WholeText t) (fraction : FractionText f)
      (exponent : ExponentText e) : NumberText (.char '-' :: (t ++ (f ++ e)))

/-- **The texts of values of any shape.** -/
inductive ValueText : Input → Prop where
  | null : ValueText (Mark.ofString "null")
  | bool (b : Bool) : ValueText (Mark.ofString (writeBool b))
  | number {t : Input} (number : NumberText t) : ValueText t
  | string {t : Input} (glyphs : Glyphs t) : ValueText (.char '\"' :: (t ++ [.char '\"']))
  | list {ts : List Input} {u : Input} (items : Separated ts u) (each : ∀ t ∈ ts, ValueText t) :
      ValueText (.char '[' :: (u ++ [.char ']']))
  | object {ms : List (Unit × Input)} {u : Input} (members : Members (fun _ => Glyphs) ms u)
      (each : ∀ m ∈ ms, ValueText m.2) : ValueText (.char '{' :: (u ++ [.char '}']))

/-! ## Names -/

/-- The texts of a choice that has nothing but a name: the name, or an object with one member of
that name, which holds nothing. -/
inductive VariantText (name : String) : Input → Prop where
  | plain {t : Input} (text : StringText name t) : VariantText name t
  | object {k s₁ s₂ s₃ s₄ : Input} (key : StringText name k) (blank₁ : Blank s₁)
      (blank₂ : Blank s₂) (blank₃ : Blank s₃) (blank₄ : Blank s₄) :
      VariantText name (.char '{' :: (s₁ ++ (k ++ (s₂ ++ .char ':' :: (s₃ ++
        (Mark.ofString "null" ++ (s₄ ++ [.char '}'])))))))

/-! ## Records -/

namespace Record

variable {ι : Type} [DecidableEq ι] (r : Record ι)

/-- Which texts the value of a field has. -/
abbrev Texts : Type := (i : ι) → r.type i → Input → Prop

/-- **Members among which the fields of a record are** — each at most once, in any order, with those
that have a value for being absent possibly left out — and members of other names with values of any
shape. -/
structure Fits (texts : r.Texts) (v : r.Full) (ms : List (String × Input)) : Prop where
  fields : ∀ m ∈ ms, ∀ i, m.1 = r.name i → texts i (v i) m.2
  others : ∀ m ∈ ms, (∀ i, m.1 ≠ r.name i) → ValueText m.2
  once : ∀ i, (ms.map (·.1)).count (r.name i) ≤ 1
  absent : ∀ i, r.name i ∉ ms.map (·.1) → r.absent i = some (v i)

/-- **The texts of a record**: an object that has its fields, or a list of them in their order, at
whose end those that have a value for being absent may be left out. -/
inductive Form (texts : r.Texts) (v : r.Full) : Input → Prop where
  | object {ms : List (String × Input)} {u : Input} (fits : r.Fits texts v ms)
      (members : Members Quoted ms u) : Form texts v (.char '{' :: (u ++ [.char '}']))
  | list {before after : List ι} {f : ι → Input} {u : Input} (order : r.fields = before ++ after)
      (fields : ∀ i ∈ before, texts i (v i) (f i)) (absent : ∀ i ∈ after, r.absent i = some (v i))
      (items : Separated (before.map f) u) : Form texts v (.char '[' :: (u ++ [.char ']']))

/-- **Members of which each is well formed or flawed in itself** (`flaws`), where it is a field. -/
structure Values (texts : r.Texts) (flaws : ι → Input → Prop) (ms : List (String × Input)) :
    Prop where
  fields : ∀ m ∈ ms, ∀ i, m.1 = r.name i → (∃ a, texts i a m.2) ∨ flaws i m.2
  others : ∀ m ∈ ms, (∀ i, m.1 ≠ r.name i) → ValueText m.2

/-- **The flawed texts of a record**: an object in which a field comes twice or a field is missing
that has to be there, a list that ends before such a field, and an object or a list in which a field
is flawed in itself. -/
inductive Flawed (texts : r.Texts) (flaws : ι → Input → Prop) : Input → Prop where
  | repeated {ms : List (String × Input)} {u : Input} {i : ι} (members : Members Quoted ms u)
      (values : r.Values texts flaws ms) (twice : 2 ≤ (ms.map (·.1)).count (r.name i)) :
      Flawed texts flaws (.char '{' :: (u ++ [.char '}']))
  | missing {ms : List (String × Input)} {u : Input} {i : ι} (members : Members Quoted ms u)
      (values : r.Values texts flaws ms) (required : r.absent i = none)
      (missing : r.name i ∉ ms.map (·.1)) : Flawed texts flaws (.char '{' :: (u ++ [.char '}']))
  | member {ms : List (String × Input)} {u t : Input} {i : ι} (members : Members Quoted ms u)
      (values : r.Values texts flaws ms) (there : (r.name i, t) ∈ ms) (flaw : flaws i t) :
      Flawed texts flaws (.char '{' :: (u ++ [.char '}']))
  | short {before after : List ι} {i : ι} {f : ι → Input} {u : Input}
      (order : r.fields = before ++ after) (items : Separated (before.map f) u)
      (values : ∀ j ∈ before, (∃ a, texts j a (f j)) ∨ flaws j (f j)) (late : i ∈ after)
      (required : r.absent i = none) : Flawed texts flaws (.char '[' :: (u ++ [.char ']']))
  | item {before after : List ι} {i : ι} {f : ι → Input} {u : Input}
      (order : r.fields = before ++ after) (items : Separated (before.map f) u)
      (values : ∀ j ∈ before, (∃ a, texts j a (f j)) ∨ flaws j (f j)) (there : i ∈ before)
      (flaw : flaws i (f i)) : Flawed texts flaws (.char '[' :: (u ++ [.char ']']))

end Record

end AuditRelay.Json
