import AuditRelay.Logging.Pattern.Mode
import AuditRelay.Text.Hex

/-!
# Escapes in patterns

A backslash makes a letter out of a sign that has a meaning, and a class, a position or another
character out of a letter. References to groups and conditions on what stands around a match are no
escapes. Boundaries of words are known for words in ASCII only.
-/

namespace AuditRelay.Logging.Pattern

/-- What an escape stands for. -/
inductive Escape where
  | letter (c : Char)
  /-- Any character of a class. -/
  | kind
  /-- The beginning or the end of the text or of a word. -/
  | edge
  deriving DecidableEq, Repr

/-- The escapes of control characters. -/
def controls : List (Char × Char) :=
  [('a', '\x07'), ('f', '\x0c'), ('t', '\t'), ('n', '\n'), ('r', '\r'), ('v', '\x0b')]

/-- The letters of the general categories of Unicode. -/
def categories : List Char := "CLMNPSZclmnpsz".toList

/-- Reads so many hexadecimal digits, where `n` is the number read before. -/
def hexNumber? (m : Mode) : (digits : Nat) → (n : Nat) → List Char → Option (Nat × List Char)
  | 0, n, cs => some (n, cs)
  | _ + 1, _, [] => none
  | k + 1, n, c :: cs => (Text.Hex.value? c).bind fun d => hexNumber? m k (16 * n + d) (m.skip cs)

/-- Reads a character that is given by a fixed number of hexadecimal digits. -/
def codePoint? (m : Mode) (digits : Nat) (cs : List Char) : Option (Char × List Char) :=
  (hexNumber? m digits 0 (m.skip cs)).bind fun (n, rest) =>
    if n.isValidChar then some (Char.ofNat n, rest) else none

/-- Reads what follows a backslash. -/
def escape? (m : Mode) : List Char → Option (Escape × List Char)
  | 'x' :: cs =>
    (codePoint? m 2 cs).bind fun (c, rest) =>
      if m.unicode || c.toNat < 0x80 then some (.letter c, rest) else none
  | 'u' :: cs => (codePoint? m 4 cs).map fun (c, rest) => (.letter c, rest)
  | 'U' :: cs => (codePoint? m 8 cs).map fun (c, rest) => (.letter c, rest)
  | c :: cs =>
    if "dsw".toList.contains c then some (.kind, cs)
    else if "DSW".toList.contains c then if m.unicode then some (.kind, cs) else none
    else if c == 'p' || c == 'P' then
      match m.skip cs with
      | category :: rest =>
        if m.unicode && categories.contains category then some (.kind, rest) else none
      | [] => none
    else if c == 'A' || c == 'z' then some (.edge, cs)
    else if "bB<>".toList.contains c then if m.unicode then none else some (.edge, cs)
    else
      match controls.lookup c with
      | some control => some (.letter control, cs)
      | none => if c.toNat < 0x80 && !c.isAlphanum then some (.letter c, cs) else none
  | [] => none

end AuditRelay.Logging.Pattern
