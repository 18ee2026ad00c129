import AuditRelay.Text.Combining
import AuditRelay.Text.Unseen

/-!
# Quoted text

Messages show a piece of foreign text between double quotes, with everything spelled out that a
reader would not see, or would take for a part of the character before it.
-/

namespace AuditRelay.Text

/-- A number in lower-case hexadecimal digits. -/
def hex (n : Nat) : String :=
  String.ofList (Nat.toDigits 16 n)

/-- How one character is shown between quotes. -/
def showChar (c : Char) : String :=
  if c = '\x00' then "\\0"
  else if c = '\t' then "\\t"
  else if c = '\r' then "\\r"
  else if c = '\n' then "\\n"
  else if c = '\"' then "\\\""
  else if c = '\\' then "\\\\"
  else if Unseen.contains c || Combining.contains c then "\\u\x7b" ++ hex c.toNat ++ "\x7d"
  else c.toString

/-- A text between double quotes. -/
def quoted (s : String) : String :=
  "\"" ++ String.join (s.toList.map showChar) ++ "\""

/-- A list of texts between brackets, each quoted. -/
def quotedList (texts : List String) : String :=
  "[" ++ ", ".intercalate (texts.map quoted) ++ "]"

end AuditRelay.Text
