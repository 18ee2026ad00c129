import AuditRelay.Logging.Pattern.Escape
import AuditRelay.Logging.Pattern.Nesting

/-!
# Brackets in patterns

A bracket stands for one character of several. It holds characters, ranges, classes and other
brackets, and signs in pairs combine what stands on their two sides. Without Unicode nothing in a
bracket goes beyond ASCII, so that no bracket and no class can be negated.
-/

namespace AuditRelay.Logging.Pattern

/-- The classes that have a name between colons. -/
def classes : List String :=
  ["alnum", "alpha", "ascii", "blank", "cntrl", "digit", "graph", "lower", "print", "punct",
    "space", "upper", "word", "xdigit"]

/-- Reads a class that is named between colons, and tells whether it is negated. -/
def namedClass? : List Char → Option (Bool × List Char)
  | ':' :: cs =>
    let isNegated := cs.head? = some '^'
    let cs := if isNegated then cs.tail else cs
    let name := cs.takeWhile (· ≠ ':')
    match cs.drop name.length with
    | ':' :: ']' :: rest =>
      if classes.contains (String.ofList name) then some (isNegated, rest) else none
    | _ => none
  | _ => none

/-- Reads an escape, or a character that stands for itself. -/
def letter? (m : Mode) : List Char → Option (Escape × List Char)
  | '\\' :: cs => escape? m cs
  | c :: cs => some (.letter c, cs)
  | [] => none

/-- Reads a character or a class that can stand in a bracket. -/
def member? (m : Mode) (cs : List Char) : Option (Escape × List Char) :=
  (letter? m cs).bind fun (e, rest) =>
    match e with
    | .letter c => if m.unicode || c.toNat < 0x80 then some (e, rest) else none
    | .kind => some (e, rest)
    | .edge => none

/-- What follows a character, a class or a range in a bracket. A range goes from a character to one
that is not before it. -/
def afterMember? (m : Mode) (cs : List Char) : Option (List Char) :=
  (member? m cs).bind fun (first, rest) =>
    match m.skip rest with
    | '-' :: more =>
      if m.peek? more = some ']' ∨ m.peek? more = some '-' then some ('-' :: more)
      else
        match first, member? m (m.skip more) with
        | .letter a, some (.letter b, rest) => if a ≤ b then some rest else none
        | _, _ => none
    | rest => some rest

/-- A bracket that is not closed yet. -/
structure Bracket where
  /-- How deeply is nested what stands before the last pair of signs. -/
  left : Option Nat
  /-- What stands behind it. -/
  right : Row
  /-- Only hyphens have been read, so that one more is a hyphen. -/
  isFresh : Bool
  deriving Repr

namespace Bracket

/-- Nothing has been read. -/
def new : Bracket := ⟨none, .empty, true⟩

/-- One more member. -/
def add (b : Bracket) (depth : Nat) : Bracket :=
  { b with right := b.right.add depth, isFresh := false }

/-- A hyphen at the beginning. -/
def addHyphen (b : Bracket) : Bracket :=
  { b with right := b.right.add 0 }

/-- How deeply the members are nested together. -/
def inner (b : Bracket) : Nat :=
  match b.left with
  | none => b.right.depth
  | some depth => max depth b.right.depth + 1

/-- A pair of signs: what was read so far is combined with what follows. -/
def combine (b : Bracket) : Bracket := ⟨some b.inner, .empty, false⟩

/-- How deeply the bracket is nested when it is closed. -/
def depth (b : Bracket) : Nat := b.inner + 1

end Bracket

/-- Whether two characters are a pair of signs that combines. -/
def isCombining (a b : Char) : Bool :=
  a = b && "&-~".toList.contains a

/-- Reads the rest of a bracket that stands in others, and tells how deeply the outermost is
nested. -/
def bracket? (m : Mode) : (fuel : Nat) → Bracket → (outer : List Bracket) → List Char →
    Option (Nat × List Char)
  | 0, _, _, _ => none
  | n + 1, b, outer, cs =>
    match m.skip cs with
    | [] => none
    | c :: cs =>
      if c = '-' && b.isFresh then bracket? m n b.addHyphen outer cs
      else if c = ']' && b.isFresh && b.right.count = 0 then bracket? m n (b.add 0) outer cs
      else if c = ']' then
        match outer with
        | [] => some (b.depth, cs)
        | o :: outer => bracket? m n (o.add b.depth) outer cs
      else if c = '[' then
        match namedClass? cs with
        | some (isNegated, rest) =>
          if isNegated && !m.unicode then none else bracket? m n (b.add 0) outer rest
        | none =>
          match m.skip cs with
          | '^' :: rest => if m.unicode then bracket? m n .new (b :: outer) rest else none
          | rest => bracket? m n .new (b :: outer) rest
      else if cs.head?.any (isCombining c) then bracket? m n b.combine outer cs.tail
      else
        match afterMember? m (c :: cs) with
        | some rest => bracket? m n (b.add 0) outer rest
        | none => none

/-- Reads what follows an opening bracket, and tells how deeply the bracket is nested. -/
def afterBracket? (m : Mode) (cs : List Char) : Option (Nat × List Char) :=
  match m.skip cs with
  | '^' :: rest => if m.unicode then bracket? m (cs.length + 1) .new [] rest else none
  | rest => bracket? m (cs.length + 1) .new [] rest

end AuditRelay.Logging.Pattern
