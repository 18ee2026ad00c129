/-!
# Writing JSON

Texts are written compactly, without space between the parts. In strings the quote, the backslash
and the control characters are escaped, and nothing else is.
-/

namespace AuditRelay.Json

/-- A lower-case hexadecimal digit. -/
def hexDigit (n : Nat) : Char :=
  if n < 10 then Char.ofNat (0x30 + n) else Char.ofNat (0x57 + n)

/-- How a string holds one character. -/
def escapeChar (c : Char) : List Char :=
  if c = '\"' then ['\\', '\"']
  else if c = '\\' then ['\\', '\\']
  else if c = '\x08' then ['\\', 'b']
  else if c = '\x0c' then ['\\', 'f']
  else if c = '\n' then ['\\', 'n']
  else if c = '\r' then ['\\', 'r']
  else if c = '\t' then ['\\', 't']
  else if c.toNat < 0x20 then
    ['\\', 'u', '0', '0', hexDigit (c.toNat / 16), hexDigit (c.toNat % 16)]
  else [c]

/-- A string. -/
def writeString (s : String) : String :=
  "\"" ++ String.ofList (s.toList.flatMap escapeChar) ++ "\""

/-- An object with members that are written already. -/
def writeObject (members : List (String × String)) : String :=
  "\x7b" ++ ",".intercalate (members.map fun m => writeString m.1 ++ ":" ++ m.2) ++ "\x7d"

/-- A list with items that are written already. -/
def writeList (items : List String) : String :=
  "[" ++ ",".intercalate items ++ "]"

/-- A truth value. -/
def writeBool (b : Bool) : String :=
  if b then "true" else "false"

end AuditRelay.Json
