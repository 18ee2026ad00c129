import AuditRelay.Text.Blank

/-!
# How a part of a pattern is read

Flags change how the rest of a group is read. Two of them decide what a pattern is: in verbose mode
blanks and comments mean nothing, and without Unicode a pattern may not ask for a character above
ASCII in a way that would need a part of it.
-/

namespace AuditRelay.Logging.Pattern

/-- How a part of a pattern is read. -/
structure Mode where
  /-- Blanks, and comments from a number sign to the end of the line, mean nothing. -/
  verbose : Bool
  /-- A pattern is about characters; else it is about bytes. -/
  unicode : Bool
  deriving DecidableEq, Repr

namespace Mode

/-- How a pattern is read where no flag is set. -/
def start : Mode := ⟨false, true⟩

/-- What flags say about one of them; those behind a minus sign are switched off. -/
def switch? (flag : Char) (flags : List Char) : Option Bool :=
  if flags.contains flag then some (!(flags.takeWhile (· ≠ flag)).contains '-') else none

/-- How a part is read where flags are set. -/
def withFlags (m : Mode) (flags : List Char) : Mode where
  verbose := (switch? 'x' flags).getD m.verbose
  unicode := (switch? 'u' flags).getD m.unicode

end Mode

/-- What follows blanks and comments. -/
def afterBlanks : (isComment : Bool) → List Char → List Char
  | _, [] => []
  | true, c :: cs => afterBlanks (c ≠ '\n') cs
  | false, c :: cs =>
    if c = '#' then afterBlanks true cs
    else if Text.isBlank c then afterBlanks false cs
    else c :: cs

namespace Mode

/-- What follows all that means nothing. -/
def skip (m : Mode) (cs : List Char) : List Char :=
  if m.verbose then afterBlanks false cs else cs

/-- The next character that is no blank. The sign that begins a comment is passed by, but not the
comment. -/
def peek? (m : Mode) (cs : List Char) : Option Char :=
  if m.verbose then
    match cs.dropWhile Text.isBlank with
    | '#' :: rest => (rest.dropWhile Text.isBlank).head?
    | rest => rest.head?
  else cs.head?

end Mode

end AuditRelay.Logging.Pattern
