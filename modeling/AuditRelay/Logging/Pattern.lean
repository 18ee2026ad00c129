import AuditRelay.Logging.Pattern.Bracket
import AuditRelay.Text.Alphanumeric

/-!
# Patterns of values

A directive may ask for the value of a field by a pattern, which is a regular expression. What is
said here is which texts are patterns: groups and brackets are closed, a repetition has something to
repeat, an escape is one that is known, and nothing is nested too deeply.

A directive cuts its text at equals signs, commas and closing braces, so that none of them stands in
a pattern; a repetition that is counted between braces is therefore never complete.
-/

namespace AuditRelay.Logging.Pattern

/-! ## How groups begin -/

/-- How a group begins. -/
inductive Opening where
  /-- A group without a name, and the flags that are set in it. -/
  | anonymous (flags : List Char)
  | named (name : List Char)
  /-- No group, but flags for the rest of the group around them. -/
  | flags (flags : List Char)
  deriving DecidableEq, Repr

/-- Whether a text can be the name of a group. -/
def isName : List Char → Bool
  | [] => false
  | c :: cs =>
    (c == '_' || Text.Alphanumeric.isLetter c)
      && cs.all fun c => "_.[]".toList.contains c || Text.Alphanumeric.contains c

/-- Reads the name of a group. -/
def name? (cs : List Char) : Option (Opening × List Char) :=
  let name := cs.takeWhile (· ≠ '>')
  if isName name && name.length < cs.length then some (.named name, cs.drop (name.length + 1))
  else none

/-- Whether flags are known, each given once, and something follows the minus sign. -/
def areFlags (flags : List Char) : Bool :=
  flags.all "imsUuRx-".toList.contains && decide flags.Nodup && flags.getLast? != some '-'

/-- Reads what follows an opening parenthesis, as far as it belongs to it. -/
def opening? : List Char → Option (Opening × List Char)
  | '?' :: 'P' :: '<' :: cs => name? cs
  | '?' :: '<' :: cs => name? cs
  | '?' :: cs =>
    let flags := cs.takeWhile fun c => c ≠ ':' && c ≠ ')'
    if !areFlags flags then none
    else
      match cs.drop flags.length with
      | ':' :: rest => some (.anonymous flags, rest)
      | ')' :: rest => if flags.isEmpty then none else some (.flags flags, rest)
      | _ => none
  | cs => some (.anonymous [], cs)

/-! ## Groups that are open -/

/-- A group that is not closed yet, or the whole pattern. -/
structure Level where
  mode : Mode
  /-- The parts of the last branch. -/
  parts : Row
  /-- How deeply the last part is nested, if it can be repeated. -/
  last : Option Nat
  /-- The branches before it. -/
  branches : Row
  deriving Repr

namespace Level

/-- Nothing has been read. -/
def new (mode : Mode) : Level := ⟨mode, .empty, none, .empty⟩

/-- One more part. -/
def add (l : Level) (depth : Nat) : Level :=
  { l with parts := l.parts.add depth, last := some depth }

/-- Flags are a part that cannot be repeated. -/
def addFlags (l : Level) (flags : List Char) : Level :=
  { l with mode := l.mode.withFlags flags, parts := l.parts.add 0, last := none }

/-- The last part is repeated. -/
def repeat? (l : Level) : Option Level :=
  l.last.map fun depth =>
    { l with parts := l.parts.deepen (depth + 1), last := some (depth + 1) }

/-- Another branch begins. -/
def branch (l : Level) : Level :=
  { l with parts := .empty, last := none, branches := l.branches.add l.parts.depth }

/-- How deeply the branches are nested together. -/
def depth (l : Level) : Nat :=
  (l.branches.add l.parts.depth).depth

end Level

/-! ## Whole patterns -/

/-- Whether the rest of a pattern completes it, where a group in `outer` ones is open, and groups
have been given `names`. -/
def completes : (fuel : Nat) → Level → (outer : List Level) → (names : List (List Char)) →
    List Char → Bool
  | 0, _, _, _, _ => false
  | n + 1, l, outer, names, cs =>
    match l.mode.skip cs with
    | [] => outer.isEmpty && l.depth ≤ deepest
    | '(' :: cs =>
      match opening? (l.mode.skip cs) with
      | some (.anonymous flags, rest) =>
        completes n (.new (l.mode.withFlags flags)) (l :: outer) names rest
      | some (.named name, rest) =>
        if names.contains name then false
        else completes n (.new l.mode) (l :: outer) (name :: names) rest
      | some (.flags flags, rest) => completes n (l.addFlags flags) outer names rest
      | none => false
    | ')' :: cs =>
      match outer with
      | [] => false
      | o :: outer => completes n (o.add (l.depth + 1)) outer names cs
    | '|' :: cs => completes n l.branch outer names cs
    | '[' :: cs =>
      match afterBracket? l.mode cs with
      | some (depth, rest) => completes n (l.add depth) outer names rest
      | none => false
    | '\\' :: cs =>
      match escape? l.mode cs with
      | some (_, rest) => completes n (l.add 0) outer names rest
      | none => false
    | c :: cs =>
      if "*+?".toList.contains c then
        match l.repeat? with
        | some l => completes n l outer names (if cs.head? = some '?' then cs.tail else cs)
        | none => false
      else if c = '\x7b' || (c = '.' && !l.mode.unicode) then false
      else completes n (l.add 0) outer names cs

/-- Whether a text is a pattern. -/
def isPattern (s : String) : Bool :=
  completes (s.length + 1) (.new .start) [] [] s.toList

/-! ## Numbers -/

/-- Whether digits follow a sign, if there is one. -/
def isExponent (cs : List Char) : Bool :=
  let digits := match cs with
    | '+' :: ds => ds
    | '-' :: ds => ds
    | ds => ds
  !digits.isEmpty && digits.all Char.isDigit

/-- Whether a text is a number without a sign. -/
def isUnsigned (cs : List Char) : Bool :=
  let whole := cs.takeWhile Char.isDigit
  let rest := cs.drop whole.length
  let fraction := if rest.head? = some '.' then rest.tail.takeWhile Char.isDigit else []
  let rest := if rest.head? = some '.' then rest.drop (fraction.length + 1) else rest
  let isInfinite := ["inf", "infinity", "nan"].any (Text.eqIgnoringCase (String.ofList cs))
  isInfinite || (!(whole ++ fraction).isEmpty && match rest with
    | [] => true
    | c :: ds => (c == 'e' || c == 'E') && isExponent ds)

/-- Whether a text can be asked for as the value of a field. A number with a plus sign can, although
as a pattern it would repeat nothing. -/
def isReadable (s : String) : Bool :=
  isPattern s || match s.toList with
    | '+' :: cs => isUnsigned cs
    | _ => false

end AuditRelay.Logging.Pattern
