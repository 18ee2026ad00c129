import AuditRelay.Logging.Filter
import AuditRelay.Logging.Pattern

/-!
# Directives

The environment may say which events are written. It gives directives between commas, and a
directive is

* a level, for all events;
* `target=level`, for the parts of the program whose names begin with `target`; without a level
  everything passes;
* `target[span{field=value}]=level`, where each part may be missing: for events inside a span of
  that name, and for events that have a field of that name and value.

This program opens no spans, and only a span can hold a value that is asked for, so that a directive
about either concerns no event. Of the directives that concern an event the most specific one
counts.

The signs of a directive are looked for in its text without the blanks at the ends, and their places
are counted there, in bytes; but the names and levels between them are cut out of the whole text. So
blanks in front shift every cut, and a cut that falls into the middle of a character cannot be made.
-/

namespace AuditRelay.Logging

/-- What an event has to have for a directive to concern it: a field, perhaps with a value. -/
structure FieldTest where
  name : String
  value : Option String
  deriving DecidableEq, Repr

/-- Whether an event with fields of these names has what a test asks for; no event has a value that
is asked for. -/
def FieldTest.isMet (t : FieldTest) (names : List String) : Bool :=
  t.value.isNone && names.contains t.name

/-- Tells which of the events that it concerns are written. -/
structure Directive where
  /-- How the name of the part begins; none for all parts. -/
  target : Option String
  /-- The name of the span around the event; none for events anywhere. -/
  span : Option String
  field : Option FieldTest
  filter : Filter
  deriving DecidableEq, Repr

namespace Directive

/-- Why directives cannot be read. -/
inductive Fault where
  | malformed
  /-- A cut falls into the middle of a character. -/
  | torn
  deriving DecidableEq, Repr

/-! ## Cutting -/

/-- Characters with their places, counted in bytes from `start`. -/
def places : (start : Nat) → List Char → List (Nat × Char)
  | _, [] => []
  | i, c :: cs => (i, c) :: places (i + c.utf8Size) cs

/-- Splits characters after a number of bytes. -/
def splitBytes : Nat → List Char → Except Fault (List Char × List Char)
  | 0, cs => .ok ([], cs)
  | _, [] => .ok ([], [])
  | n, c :: cs =>
    if c.utf8Size ≤ n then (splitBytes (n - c.utf8Size) cs).map fun p => (c :: p.1, p.2)
    else .error .torn

/-- What stands between two places of a text. -/
def cut (s : String) (start stop : Nat) : Except Fault String := do
  let (_, rest) ← splitBytes start s.toList
  let (middle, _) ← splitBytes (stop - start) rest
  pure (String.ofList middle)

/-- What stands behind a place of a text. -/
def cutFrom (s : String) (start : Nat) : Except Fault String := do
  let (_, rest) ← splitBytes start s.toList
  pure (String.ofList rest)

/-! ## Reading -/

/-- Reads a level; without one everything passes. -/
def levelOf (s : String) : Except Fault Filter :=
  if s = "" then .ok (some .trace)
  else
    match Filter.parse? s with
    | some f => .ok f
    | none => .error .malformed

/-- Reads a test of a field: a name, and a value behind an equals sign. -/
def testOf (s : String) : Except Fault FieldTest :=
  match s.splitOn "=" with
  | name :: value :: _ =>
    if Pattern.isReadable value then .ok ⟨name, some value⟩ else .error .malformed
  | _ => if s = "" then .error .malformed else .ok ⟨s, none⟩

/-- Reads a text without any signs: a level or a target. -/
def ofWord (s : String) : Directive :=
  match Filter.parse? s with
  | some f => ⟨none, none, none, f⟩
  | none => ⟨some s, none, none, some .trace⟩

/-- Reads on behind the bracket. -/
def readEnd (s : String) (d : Directive) : List (Nat × Char) → Except Fault Directive
  | [] => .ok d
  | (i, c) :: _ =>
    if c = '=' then do pure { d with filter := ← levelOf (← cutFrom s (i + 1)) }
    else .error .malformed

/-- Reads on between the braces, which begin at a place. -/
def readField (s : String) (d : Directive) (start : Nat) (marks : List (Nat × Char)) :
    Except Fault Directive :=
  match marks.dropWhile (·.2 ≠ '\x7d') with
  | [] => .error .malformed
  | (i, _) :: rest => do
    let test ← testOf (← cut s start i)
    match rest with
    | (_, ']') :: rest => readEnd s { d with field := some test } rest
    | _ => .error .malformed

/-- Reads on inside the bracket, which begins at a place. A span without a name is any span if a
field follows. -/
def readSpan (s : String) (d : Directive) (start : Nat) (marks : List (Nat × Char)) :
    Except Fault Directive :=
  match marks.dropWhile (fun m => m.2 ≠ ']' && m.2 ≠ '\x7b') with
  | [] => .error .malformed
  | (i, c) :: rest => do
    let name ← cut s start i
    if c = ']' then readEnd s { d with span := some name } rest
    else readField s { d with span := if name = "" then none else some name } (i + 1) rest

/-- The directive about everything. -/
def everything : Directive := ⟨none, none, none, some .trace⟩

/-- Whether a character may begin a target. -/
def beginsTarget (c : Char) : Bool :=
  c == '-' || c == ':' || c == '_' || Text.Alphanumeric.contains c

/-- Reads a directive. -/
def parse (s : String) : Except Fault Directive :=
  match places 0 (Text.trim s).toList with
  | [] => .error .malformed
  | (_, c) :: rest =>
    if c = '[' then readSpan s everything 1 rest
    else if !beginsTarget c then .error .malformed
    else
      match rest.dropWhile fun m => m.2 ≠ '=' && m.2 ≠ '[' with
      | [] => .ok (ofWord s)
      | (i, c) :: rest => do
        let d := { everything with target := some (← cut s 0 i) }
        if c = '=' then pure { d with filter := ← levelOf (← cutFrom s (i + 1)) }
        else readSpan s d (i + 1) rest

/-- Reads directives between commas. -/
def parseAll (s : String) : Except Fault (List Directive) :=
  ((s.splitOn ",").filter (· ≠ "")).mapM parse

/-! ## Choosing -/

/-- Whether a directive concerns an event of a target with fields of these names. -/
def concerns (d : Directive) (target : String) (names : List String) : Bool :=
  d.span.isNone && d.target.all (fun t => t.toList.isPrefixOf target.toList)
    && d.field.all (·.isMet names)

/-- How much of the target a directive tells: nothing is the least. -/
def reach (d : Directive) : Nat :=
  d.target.elim 0 (·.utf8ByteSize + 1)

/-- Whether a directive counts rather than one that stands before it and concerns the same event.
The longer target counts, then one with a field, then the later name. -/
def overrides (d before : Directive) : Bool :=
  before.reach < d.reach || (before.reach == d.reach && match before.field, d.field with
    | some f, some g => f.name ≤ g.name
    | some _, none => false
    | none, _ => true)

/-- Of two directives the one that counts. -/
def prefer (best : Option Directive) (d : Directive) : Option Directive :=
  match best with
  | none => some d
  | some b => if d.overrides b then some d else some b

/-- The filter that directives give to an event; nothing is written of one that none concerns. -/
def filterFor (ds : List Directive) (target : String) (names : List String) : Filter :=
  ((ds.filter (·.concerns target names)).foldl prefer none).elim none (·.filter)

end Directive

/-- The directives in force: those of the environment if there are any that can be read, and
otherwise the configured level. A cut that cannot be made is fatal. -/
def directivesFor (value? : Option String) (level : Filter) : Option (List Directive) :=
  match value?.map Directive.parseAll with
  | some (.ok ds) => some ds
  | some (.error .torn) => none
  | _ => some [⟨none, none, none, level⟩]

end AuditRelay.Logging
