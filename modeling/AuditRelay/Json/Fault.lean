import AuditRelay.Json.Number
import AuditRelay.Text.Mark
import AuditRelay.Text.Quoted

/-!
# What can be wrong with a JSON text

A text is read from left to right for a value of a known shape and the first fault ends the reading.
A fault is one of three kinds: the text is malformed, it ends too early, or it is well formed and
holds something of the wrong shape.
-/

namespace AuditRelay.Json

/-- What stands in a text where something else was expected. -/
inductive Found where
  | null
  | bool (b : Bool)
  | number (n : Number)
  | text (s : String)
  | sequence
  | map

/-- The words a message has for what was found. -/
def Found.describe : Found → String
  | null => "null"
  | bool b => "boolean `" ++ toString b ++ "`"
  | number (.real f) => "floating point `" ++ (Number.real f).print ++ "`"
  | number n => "integer `" ++ n.print ++ "`"
  | text s => "string " ++ Text.quoted s
  | sequence => "sequence"
  | map => "map"

/-- A well-formed text of the wrong shape. -/
inductive Mismatch where
  | wrongType (found : Found) (expected : String)
  | wrongValue (found : Found) (expected : String)
  | wrongLength (length : Nat) (expected : String)
  | unknownVariant (name : String) (known : List String)
  | missingField (name : String)
  | duplicateField (name : String)

/-- A name as a message shows it. -/
def named (s : String) : String :=
  "`" ++ s ++ "`"

/-- The choices a message offers. -/
def choices : List String → String
  | [] => "there are no variants"
  | [a] => "expected " ++ named a
  | [a, b] => "expected " ++ named a ++ " or " ++ named b
  | more => "expected one of " ++ ", ".intercalate (more.map named)

/-- The text of a mismatch. -/
def Mismatch.message : Mismatch → String
  | wrongType found expected => "invalid type: " ++ found.describe ++ ", expected " ++ expected
  | wrongValue found expected => "invalid value: " ++ found.describe ++ ", expected " ++ expected
  | wrongLength n expected => "invalid length " ++ toString n ++ ", expected " ++ expected
  | unknownVariant name known => "unknown variant " ++ named name ++ ", " ++ choices known
  | missingField name => "missing field " ++ named name
  | duplicateField name => "duplicate field " ++ named name

/-- Why a text could not be read. -/
inductive Cause where
  | endInList
  | endInObject
  | endInString
  | endInValue
  | expectedColon
  | expectedListCommaOrEnd
  | expectedObjectCommaOrEnd
  | expectedWord
  | expectedValue
  | invalidEscape
  | invalidNumber
  | numberOutOfRange
  | invalidCodePoint
  | controlCharacter
  | keyNotString
  | loneSurrogate
  | endOfHexEscape
  | trailingComma
  | trailingCharacters
  | tooDeep
  | mismatch (m : Mismatch)

/-- The three kinds of faults. -/
inductive Category where
  | malformed
  | truncated
  | mismatched
  deriving DecidableEq, Repr

/-- The kind of a fault. -/
def Cause.category : Cause → Category
  | endInList | endInObject | endInString | endInValue => .truncated
  | mismatch _ => .mismatched
  | _ => .malformed

/-- The text of a cause. -/
def Cause.message : Cause → String
  | endInList => "EOF while parsing a list"
  | endInObject => "EOF while parsing an object"
  | endInString => "EOF while parsing a string"
  | endInValue => "EOF while parsing a value"
  | expectedColon => "expected `:`"
  | expectedListCommaOrEnd => "expected `,` or `]`"
  | expectedObjectCommaOrEnd => "expected `,` or `\x7d`"
  | expectedWord => "expected ident"
  | expectedValue => "expected value"
  | invalidEscape => "invalid escape"
  | invalidNumber => "invalid number"
  | numberOutOfRange => "number out of range"
  | invalidCodePoint => "invalid unicode code point"
  | controlCharacter => "control character (\\u0000-\\u001F) found while parsing a string"
  | keyNotString => "key must be a string"
  | loneSurrogate => "lone leading surrogate in hex escape"
  | endOfHexEscape => "unexpected end of hex escape"
  | trailingComma => "trailing comma"
  | trailingCharacters => "trailing characters"
  | tooDeep => "recursion limit exceeded"
  | mismatch m => m.message

/-- A fault noticed while reading: its cause, and how many bytes of the text were not read yet. -/
structure Fault where
  cause : Cause
  left : Nat

/-- A fault with the place where it was noticed. -/
structure Error where
  cause : Cause
  line : Nat
  column : Nat

/-- The kind of an error. -/
def Error.category (e : Error) : Category :=
  e.cause.category

/-- The text of an error, with the place. -/
def Error.message (e : Error) : String :=
  e.cause.message ++ " at line " ++ toString e.line ++ " column " ++ toString e.column

/-- Finds the place of a fault in the text it was noticed in. -/
def Fault.locate (f : Fault) (text : List Mark) : Error :=
  let (line, column) := Mark.place text (Mark.byteCount text - f.left) 1 0
  { cause := f.cause, line := line, column := column }

end AuditRelay.Json
