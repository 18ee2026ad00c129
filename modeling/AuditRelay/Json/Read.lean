import AuditRelay.Json.Fault

/-!
# Reading JSON from left to right

A reader takes the part of a text that is not read yet and returns a value and what is left. The
readers here are those of the words, strings and numbers of JSON, and of the commas and brackets
around the members of an object and the items of a list.
-/

namespace AuditRelay.Json

/-- The part of a text that is not read yet. -/
abbrev Input := List Mark

/-- A reader of values. -/
abbrev Read (α : Type) := StateT Input (Except Fault) α

open Mark (byteCount)

/-- Reads a whole text with a reader. -/
def Read.run (read : Read α) (text : List Mark) : Except Error α :=
  match read text with
  | .ok (a, _) => .ok a
  | .error f => .error (f.locate text)

/-- Stops here. -/
def fail (cause : Cause) : Read α := fun s =>
  .error ⟨cause, byteCount s⟩

/-- Stops because of the byte that comes next; the place of the fault is behind that byte. -/
def failOn (cause : Cause) : Read α := fun s =>
  .error ⟨cause, byteCount s - 1⟩

/-- Whether a mark may stand between the parts of a text. -/
def isSpace (m : Mark) : Bool :=
  m == .char ' ' || m == .char '\n' || m == .char '\t' || m == .char '\r'

/-- The digit a mark stands for. -/
def digit? : Mark → Option Nat
  | .char c => if c.isDigit then some (c.toNat - '0'.toNat) else none
  | .stray _ => none

/-- Skips space and looks at the mark that follows. -/
def peek : Read (Option Mark) := fun s =>
  let s := s.dropWhile isSpace
  .ok (s.head?, s)

/-- Steps over one mark. -/
def advance : Read Unit := fun s =>
  .ok ((), s.tail)

/-- Looks at the first mark of a value; there has to be one. -/
def valueStart : Read Mark := do
  match ← peek with
  | some m => pure m
  | none => fail .endInValue

/-- Reads the given characters. -/
def word : List Char → Read Unit
  | [], s => .ok ((), s)
  | _ :: _, [] => .error ⟨.endInValue, 0⟩
  | c :: rest, m :: s =>
    if m = .char c then word rest s else .error ⟨.expectedWord, byteCount (m :: s) - 1⟩

/-! ## Strings -/

/-- The character that stands behind a backslash for another one. -/
def escaped? : Char → Option Char
  | '\"' => some '\"'
  | '\\' => some '\\'
  | '/' => some '/'
  | 'b' => some '\x08'
  | 'f' => some '\x0c'
  | 'n' => some '\n'
  | 'r' => some '\r'
  | 't' => some '\t'
  | _ => none

/-- The value of a hexadecimal digit in either case. -/
def hexDigit? : Mark → Option Nat
  | .char c =>
    let n := c.toNat
    if 0x30 ≤ n ∧ n ≤ 0x39 then some (n - 0x30)
    else if 0x41 ≤ n ∧ n ≤ 0x46 then some (n - 0x37)
    else if 0x61 ≤ n ∧ n ≤ 0x66 then some (n - 0x57)
    else none
  | .stray _ => none

/-- The value of four hexadecimal digits. -/
def hex4? (a b c d : Mark) : Option Nat := do
  pure (((← hexDigit? a) * 16 + (← hexDigit? b)) * 256 + (← hexDigit? c) * 16 + (← hexDigit? d))

/-- The fault of a hexadecimal escape whose digits should come next: there have to be four bytes. -/
def hexFault (s : Input) : Fault :=
  if byteCount s < 4 then ⟨.endInString, 0⟩ else ⟨.invalidEscape, byteCount s - 4⟩

/-- Whether a number is the first half of a surrogate pair. -/
def isLeading (n : Nat) : Bool :=
  0xD800 ≤ n && n ≤ 0xDBFF

/-- Whether a number is the second half of a surrogate pair. -/
def isTrailing (n : Nat) : Bool :=
  0xDC00 ≤ n && n ≤ 0xDFFF

/-- The character of a surrogate pair. -/
def ofPair (leading trailing : Nat) : Char :=
  Char.ofNat ((leading - 0xD800) * 0x400 + (trailing - 0xDC00) + 0x10000)

/-- Reads the rest of a string up to its closing quote. `done` holds the characters so far, last
first; `clean` tells whether no stray byte was met, which is a fault only once the string ends. -/
def content (done : List Char) (clean : Bool) : Input → Except Fault (String × Input)
  | [] => .error ⟨.endInString, 0⟩
  | .stray _ :: s => content done false s
  | .char c :: s =>
    if c = '\"' then
      if clean then .ok (String.ofList done.reverse, s)
      else .error ⟨.invalidCodePoint, byteCount s⟩
    else if c = '\\' then
      match s with
      | [] => .error ⟨.endInString, 0⟩
      | .stray _ :: _ => .error ⟨.invalidEscape, byteCount s - 1⟩
      | .char 'u' :: s₁ =>
        match s₁ with
        | a :: b :: c :: d :: s₂ =>
          match hex4? a b c d with
          | none => .error (hexFault s₁)
          | some n =>
            if isTrailing n then .error ⟨.loneSurrogate, byteCount s₂⟩
            else if isLeading n then
              match s₂ with
              | [] => .error ⟨.endInString, 0⟩
              | .char '\\' :: [] => .error ⟨.endInString, 0⟩
              | .char '\\' :: .char 'u' :: s₃ =>
                match s₃ with
                | a :: b :: c :: d :: s₄ =>
                  match hex4? a b c d with
                  | none => .error (hexFault s₃)
                  | some m =>
                    if isTrailing m then content (ofPair n m :: done) clean s₄
                    else .error ⟨.loneSurrogate, byteCount s₄⟩
                | _ => .error (hexFault s₃)
              | .char '\\' :: s₃ => .error ⟨.endOfHexEscape, byteCount s₃ - 1⟩
              | _ => .error ⟨.endOfHexEscape, byteCount s₂ - 1⟩
            else content (Char.ofNat n :: done) clean s₂
        | _ => .error (hexFault s₁)
      | .char e :: s₁ =>
        match escaped? e with
        | some x => content (x :: done) clean s₁
        | none => .error ⟨.invalidEscape, byteCount s - 1⟩
    else if c.toNat < 0x20 then .error ⟨.controlCharacter, byteCount s⟩
    else content (c :: done) clean s

/-- Reads a string behind its opening quote. -/
def text : Read String := fun s =>
  content [] true s

/-! ## Numbers -/

/-- The digits at the start of a text. -/
def digits : Input → List Nat × Input
  | [] => ([], [])
  | m :: s =>
    match digit? m with
    | some d => let (ds, rest) := digits s; (d :: ds, rest)
    | none => ([], m :: s)

/-- Ends a number that is not whole. -/
def finish (positive : Bool) (significand : Nat) (exponent : Int) : Read Number := fun s =>
  match Number.ofParts positive significand exponent with
  | some n => .ok (n, s)
  | none => .error ⟨.numberOutOfRange, byteCount s⟩

/-- The exponent is at most this large, less one. -/
def exponentBound : Nat := UInt32.size / 2

/-- Reads a number from behind the letter `e` on. -/
def exponent (positive : Bool) (significand : Nat) (start : Int) : Read Number := fun s =>
  let (up, s) :=
    match s with
    | .char '+' :: t => (true, t)
    | .char '-' :: t => (false, t)
    | _ => (true, s)
  match digits s with
  | ([], []) => .error ⟨.endInValue, 0⟩
  | ([], _) => .error ⟨.invalidNumber, byteCount s - 1⟩
  | (d :: ds, rest) =>
    match Number.absorb exponentBound d ds with
    | (n, []) => finish positive significand (if up then start + n else start - n) rest
    | (_, _ :: excess) =>
      if significand ≠ 0 ∧ up then .error ⟨.numberOutOfRange, byteCount rest + excess.length⟩
      else .ok (.real (if positive then 0.0 else -0.0), rest)

/-- Reads a number from behind its point on. -/
def fraction (positive : Bool) (significand : Nat) (start : Int) : Read Number := fun s =>
  match digits s with
  | ([], []) => .error ⟨.endInValue, 0⟩
  | ([], _) => .error ⟨.invalidNumber, byteCount s - 1⟩
  | (ds, rest) =>
    let (n, excess) := Number.absorb Number.wordBound significand ds
    let e := start - (ds.length - excess.length : Nat)
    match rest with
    | .char 'e' :: t => exponent positive n e t
    | .char 'E' :: t => exponent positive n e t
    | _ => finish positive n e rest

/-- Reads a number from behind the digits before its point on. `dropped` of them did not fit. -/
def afterWhole (positive : Bool) (significand dropped : Nat) : Read Number := fun s =>
  match s with
  | .char '.' :: t => fraction positive significand dropped t
  | .char 'e' :: t => exponent positive significand dropped t
  | .char 'E' :: t => exponent positive significand dropped t
  | _ =>
    if dropped = 0 then .ok (Number.ofDigits positive significand, s)
    else finish positive significand dropped s

/-- Reads a number from its first digit on. A zero is not followed by another digit. -/
def number (positive : Bool) : Read Number := fun s =>
  match s with
  | [] => .error ⟨.endInValue, 0⟩
  | m :: t =>
    match digit? m with
    | none => .error ⟨.invalidNumber, byteCount s - 1⟩
    | some d =>
      match digits t with
      | (ds, rest) =>
        if d = 0 ∧ ds ≠ [] then .error ⟨.invalidNumber, byteCount t - 1⟩
        else
          let (n, excess) := Number.absorb Number.wordBound d ds
          afterWhole positive n excess.length rest

/-! ## Values of one kind -/

/-- Reads as far as is needed to name the value that stands here. -/
def found : Read Found := do
  match ← valueStart with
  | .char 'n' => advance; word ['u', 'l', 'l']; pure .null
  | .char 't' => advance; word ['r', 'u', 'e']; pure (.bool true)
  | .char 'f' => advance; word ['a', 'l', 's', 'e']; pure (.bool false)
  | .char '-' => advance; Found.number <$> number false
  | .char '\"' => advance; Found.text <$> text
  | .char '[' => pure .sequence
  | .char '{' => pure .map
  | m => if (digit? m).isSome then Found.number <$> number true else failOn .expectedValue

/-- Stops at a value of the wrong kind. -/
def mismatched (expected : String) : Read α := do
  let f ← found
  fail (.mismatch (.wrongType f expected))

/-- Reads a string where `expected` says what it is for. -/
def string (expected : String) : Read String := do
  match ← valueStart with
  | .char '\"' => advance; text
  | _ => mismatched expected

/-- Reads a truth value. -/
def bool : Read Bool := do
  match ← valueStart with
  | .char 't' => advance; word ['r', 'u', 'e']; pure true
  | .char 'f' => advance; word ['a', 'l', 's', 'e']; pure false
  | _ => mismatched "a boolean"

/-- Reads `null`. -/
def unit : Read Unit := do
  match ← valueStart with
  | .char 'n' => advance; word ['u', 'l', 'l']
  | _ => mismatched "unit"

/-- Takes a number for a whole number below `bound`. -/
def asUnsigned (bound : Nat) (expected : String) : Number → Except Mismatch Nat
  | .whole n => if n < bound then .ok n else .error (.wrongValue (.number (.whole n)) expected)
  | .negative n => .error (.wrongValue (.number (.negative n)) expected)
  | .real f => .error (.wrongType (.number (.real f)) expected)

/-- Takes a number for an integer of 64 bits with a sign. -/
def asSigned (expected : String) : Number → Except Mismatch Int
  | .whole n =>
    if n < UInt64.size / 2 then .ok n else .error (.wrongValue (.number (.whole n)) expected)
  | .negative n => .ok (-(n + 1 : Nat))
  | .real f => .error (.wrongType (.number (.real f)) expected)

/-- Reads a number that `accept` takes. -/
def numeric (expected : String) (accept : Number → Except Mismatch α) : Read α := do
  let n ← do
    match ← valueStart with
    | .char '-' => advance; number false
    | m => if (digit? m).isSome then number true else mismatched expected
  match accept n with
  | .ok a => pure a
  | .error m => fail (.mismatch m)

/-- Reads a whole number below `bound`. -/
def unsigned (bound : Nat) (expected : String) : Read Nat :=
  numeric expected (asUnsigned bound expected)

/-- Reads an integer of 64 bits with a sign. -/
def signed : Read Int :=
  numeric "i64" (asSigned "i64")

/-! ## Objects and lists -/

/-- Looks for the next key of an object; `first` tells that no member was read yet. -/
def nextKey (first : Bool) : Read Bool := do
  match ← peek with
  | none => fail .endInObject
  | some (.char '}') => pure false
  | some (.char ',') =>
    if first then failOn .keyNotString
    else
      advance
      match ← peek with
      | some (.char '\"') => pure true
      | some (.char '}') => failOn .trailingComma
      | some _ => failOn .keyNotString
      | none => fail .endInValue
  | some (.char '\"') => if first then pure true else failOn .expectedObjectCommaOrEnd
  | some _ => if first then failOn .keyNotString else failOn .expectedObjectCommaOrEnd

/-- Looks for the next item of a list; `first` tells that no item was read yet. -/
def nextItem (first : Bool) : Read Bool := do
  match ← peek with
  | none => fail .endInList
  | some (.char ']') => pure false
  | some (.char ',') =>
    if first then pure true
    else
      advance
      match ← peek with
      | some (.char ']') => failOn .trailingComma
      | some _ => pure true
      | none => fail .endInValue
  | some _ => if first then pure true else failOn .expectedListCommaOrEnd

/-- Reads a key. -/
def key : Read String := do
  advance
  text

/-- Reads the colon behind a key. -/
def colon : Read Unit := do
  match ← peek with
  | some (.char ':') => advance
  | some _ => failOn .expectedColon
  | none => fail .endInObject

/-- Closes an object. -/
def endObject : Read Unit := do
  match ← peek with
  | some (.char '}') => advance
  | some (.char ',') => failOn .trailingComma
  | some _ => failOn .trailingCharacters
  | none => fail .endInObject

/-- Closes a list. -/
def endList : Read Unit := do
  match ← peek with
  | some (.char ']') => advance
  | some (.char ',') =>
    advance
    match ← peek with
    | some (.char ']') => failOn .trailingComma
    | _ => failOn .trailingCharacters
  | some _ => failOn .trailingCharacters
  | none => fail .endInList

/-- Where reading stands once the end of an object has been looked for. -/
def pastObject (s : Input) : Input :=
  match s.dropWhile isSpace with
  | .char '}' :: t => t
  | t => t

/-- Where reading stands once the end of a list has been looked for. -/
def pastList (s : Input) : Input :=
  match s.dropWhile isSpace with
  | .char ']' :: t => t
  | .char ',' :: t => t.dropWhile isSpace
  | t => t

/-- Stops at the members of an object that do not make up a value. -/
def failInObject (m : Mismatch) : Read α := fun s =>
  .error ⟨.mismatch m, byteCount (pastObject s)⟩

/-- Stops at the items of a list that do not make up a value. -/
def failInList (m : Mismatch) : Read α := fun s =>
  .error ⟨.mismatch m, byteCount (pastList s)⟩

/-- Reads the members of an object whose values `value` reads. The fuel bounds their number. -/
def entries (value : Read α) : (fuel : Nat) → (first : Bool) → Read (List (String × α))
  | 0, _ => fail .endInObject
  | fuel + 1, first => do
    if ← nextKey first then
      let k ← key
      colon
      let v ← value
      let rest ← entries value fuel false
      pure ((k, v) :: rest)
    else pure []

/-- Reads the items of a list that `item` reads. The fuel bounds their number. -/
def items (item : Read α) : (fuel : Nat) → (first : Bool) → Read (List α)
  | 0, _ => fail .endInList
  | fuel + 1, first => do
    if ← nextItem first then
      let a ← item
      let rest ← items item fuel false
      pure (a :: rest)
    else pure []

/-- A bound for the number of members or items still to come. -/
def room : Read Nat := fun s =>
  .ok (s.length + 1, s)

/-- Reads an object from texts to texts. -/
def textMap : Read (List (String × String)) := do
  match ← valueStart with
  | .char '{' =>
    advance
    let entries ← entries (string "a string") (← room) true
    endObject
    pure entries
  | _ => mismatched "a map"

/-- Reads with `read` and then the end of the text. -/
def whole (read : Read α) : Read α := do
  let a ← read
  match ← peek with
  | none => pure a
  | some _ => failOn .trailingCharacters

end AuditRelay.Json
