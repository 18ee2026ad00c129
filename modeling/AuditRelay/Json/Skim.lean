import AuditRelay.Json.Read

/-!
# Passing over a value

The value of a member nobody asked for is passed over. It has to follow the grammar, but nothing is
made of it: its strings may hold stray bytes and half surrogate pairs, its numbers may have any
size, and it may be nested to any depth. One mark is looked at after the other, with a stack of the
lists and objects that are still open.
-/

namespace AuditRelay.Json

open Mark (byteCount)

/-- A list or object that is still open. -/
inductive Frame where
  | list
  | object
  deriving DecidableEq, Repr

/-- What is expected next. -/
inductive Expecting where
  | value
  /-- The first item of a list, or its end. -/
  | firstItem
  /-- The first key of an object, or its end. -/
  | firstKey
  | nextKey
  /-- The rest of a string; `key` tells whether it is a key. -/
  | string (key : Bool)
  | escape (key : Bool)
  | colon
  | word (rest : List Char)
  /-- A number behind its sign. -/
  | whole
  /-- A number behind a leading zero. -/
  | zero
  | digits
  /-- A number behind its point. -/
  | fraction
  | fractionDigits
  /-- A number behind the letter `e`. -/
  | exponent
  | exponentSigned
  | exponentDigits
  /-- A value was read; a comma or the end of what holds it comes next. -/
  | next
  /-- The whole value was read. -/
  | done
  deriving DecidableEq, Repr

/-- What a mark leads to. -/
inductive Verdict where
  /-- The mark was taken. -/
  | take (e : Expecting) (stack : List Frame)
  /-- The value ended before the mark. -/
  | stop
  | reject (f : Fault)

/-- What is expected once a value is complete. -/
def afterValue : List Frame → Expecting
  | [] => .done
  | _ :: _ => .next

/-- The fault of an open list or object where neither a comma nor its end comes next. -/
def Frame.commaOrEnd : Frame → Cause
  | .list => .expectedListCommaOrEnd
  | .object => .expectedObjectCommaOrEnd

/-- The fault of an open list or object where the text ends. -/
def Frame.ended : Frame → Cause
  | .list => .endInList
  | .object => .endInObject

/-- The verdict on a mark behind a complete value. -/
def closeOrComma (stack : List Frame) (m : Mark) (s : Input) : Verdict :=
  match stack with
  | [] => .stop
  | frame :: below =>
    if isSpace m then .take .next stack
    else
      match frame, m with
      | .list, .char ',' => .take .value stack
      | .object, .char ',' => .take .nextKey stack
      | .list, .char ']' => .take (afterValue below) below
      | .object, .char '}' => .take (afterValue below) below
      | _, _ => .reject ⟨frame.commaOrEnd, byteCount (m :: s) - 1⟩

/-- The verdict on the first mark of a value. -/
def startValue (stack : List Frame) (m : Mark) (s : Input) : Verdict :=
  match m with
  | .char 'n' => .take (.word ['u', 'l', 'l']) stack
  | .char 't' => .take (.word ['r', 'u', 'e']) stack
  | .char 'f' => .take (.word ['a', 'l', 's', 'e']) stack
  | .char '-' => .take .whole stack
  | .char '0' => .take .zero stack
  | .char '\"' => .take (.string false) stack
  | .char '[' => .take .firstItem (.list :: stack)
  | .char '{' => .take .firstKey (.object :: stack)
  | m =>
    if (digit? m).isSome then .take .digits stack
    else .reject ⟨.expectedValue, byteCount (m :: s) - 1⟩

/-- The verdict on the first mark of a key. -/
def startKey (stack : List Frame) (m : Mark) (s : Input) : Verdict :=
  if m = .char '\"' then .take (.string true) stack
  else .reject ⟨.keyNotString, byteCount (m :: s) - 1⟩

/-- Whether a mark opens the exponent of a number. -/
def isExponentMark (m : Mark) : Bool :=
  m == .char 'e' || m == .char 'E'

/-- The verdict on a mark; `s` is what follows it. -/
def judge (e : Expecting) (stack : List Frame) (m : Mark) (s : Input) : Verdict :=
  match e with
  | .value => if isSpace m then .take .value stack else startValue stack m s
  | .firstItem =>
    if isSpace m then .take .firstItem stack
    else if m = .char ']' then .take (afterValue stack.tail) stack.tail
    else startValue stack m s
  | .firstKey =>
    if isSpace m then .take .firstKey stack
    else if m = .char '}' then .take (afterValue stack.tail) stack.tail
    else startKey stack m s
  | .nextKey => if isSpace m then .take .nextKey stack else startKey stack m s
  | .string isKey =>
    match m with
    | .char c =>
      if c = '\"' then .take (if isKey then .colon else afterValue stack) stack
      else if c = '\\' then .take (.escape isKey) stack
      else if c.toNat < 0x20 then .reject ⟨.controlCharacter, byteCount (m :: s)⟩
      else .take (.string isKey) stack
    | .stray _ => .take (.string isKey) stack
  | .escape isKey =>
    match m with
    | .char 'u' =>
      match s with
      | a :: b :: c :: d :: _ =>
        if (hex4? a b c d).isSome then .take (.string isKey) stack else .reject (hexFault s)
      | _ => .reject (hexFault s)
    | .char c =>
      if (escaped? c).isSome then .take (.string isKey) stack
      else .reject ⟨.invalidEscape, byteCount (m :: s) - 1⟩
    | .stray _ => .reject ⟨.invalidEscape, byteCount (m :: s) - 1⟩
  | .colon =>
    if isSpace m then .take .colon stack
    else if m = .char ':' then .take .value stack
    else .reject ⟨.expectedColon, byteCount (m :: s) - 1⟩
  | .word [] => closeOrComma stack m s
  | .word (c :: rest) =>
    if m = .char c then .take (if rest = [] then afterValue stack else .word rest) stack
    else .reject ⟨.expectedWord, byteCount (m :: s) - 1⟩
  | .whole =>
    if m = .char '0' then .take .zero stack
    else if (digit? m).isSome then .take .digits stack
    else .reject ⟨.invalidNumber, byteCount (m :: s) - 1⟩
  | .zero =>
    if (digit? m).isSome then .reject ⟨.invalidNumber, byteCount (m :: s) - 1⟩
    else if m = .char '.' then .take .fraction stack
    else if isExponentMark m then .take .exponent stack
    else closeOrComma stack m s
  | .digits =>
    if (digit? m).isSome then .take .digits stack
    else if m = .char '.' then .take .fraction stack
    else if isExponentMark m then .take .exponent stack
    else closeOrComma stack m s
  | .fraction =>
    if (digit? m).isSome then .take .fractionDigits stack
    else .reject ⟨.invalidNumber, byteCount (m :: s) - 1⟩
  | .fractionDigits =>
    if (digit? m).isSome then .take .fractionDigits stack
    else if isExponentMark m then .take .exponent stack
    else closeOrComma stack m s
  | .exponent =>
    if m = .char '+' ∨ m = .char '-' then .take .exponentSigned stack
    else if (digit? m).isSome then .take .exponentDigits stack
    else .reject ⟨.invalidNumber, byteCount (m :: s) - 1⟩
  | .exponentSigned =>
    if (digit? m).isSome then .take .exponentDigits stack
    else .reject ⟨.invalidNumber, byteCount (m :: s) - 1⟩
  | .exponentDigits =>
    if (digit? m).isSome then .take .exponentDigits stack
    else closeOrComma stack m s
  | .next => closeOrComma stack m s
  | .done => .stop

/-- The outcome where the text ends. -/
def atEnd (e : Expecting) (stack : List Frame) : Except Fault Input :=
  match e with
  | .value | .word (_ :: _) => .error ⟨.endInValue, 0⟩
  | .firstItem => .error ⟨.endInList, 0⟩
  | .firstKey | .nextKey | .colon => .error ⟨.endInObject, 0⟩
  | .string _ | .escape _ => .error ⟨.endInString, 0⟩
  | .whole | .fraction | .exponent | .exponentSigned => .error ⟨.invalidNumber, 0⟩
  | .word [] | .zero | .digits | .fractionDigits | .exponentDigits | .next | .done =>
    match stack with
    | [] => .ok []
    | frame :: _ => .error ⟨frame.ended, 0⟩

/-- Passes over marks from a given expectation on until the value is complete. -/
def pass : Expecting → List Frame → Input → Except Fault Input
  | e, stack, [] => atEnd e stack
  | e, stack, m :: s =>
    match judge e stack m s with
    | .take e stack => pass e stack s
    | .stop => .ok (m :: s)
    | .reject f => .error f

/-- Passes over one value. -/
def skim : Read Unit := fun s =>
  match pass .value [] s with
  | .ok rest => .ok ((), rest)
  | .error f => .error f

end AuditRelay.Json
