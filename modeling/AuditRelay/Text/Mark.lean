/-!
# Text that arrives as bytes

A text read from outside is a list of bytes that need not spell characters. It is handled as a list
of marks: every byte that belongs to no character stays in place as a stray, so nothing is lost and
the places in the text can still be counted in bytes.
-/

namespace AuditRelay

/-- One unit of a text that arrived as bytes. -/
inductive Mark where
  /-- A character, in as many bytes as its UTF-8 form has. -/
  | char (c : Char)
  /-- A byte that belongs to no character. -/
  | stray (b : UInt8)
  deriving DecidableEq, Repr

namespace Mark

/-- Number of bytes a mark takes. -/
def width : Mark → Nat
  | char c => c.utf8Size
  | stray _ => 1

/-- The marks of a text that holds characters only. -/
def ofString (s : String) : List Mark :=
  s.toList.map char

/-- The marks of the bytes from `pos` on, at most `fuel` of them. -/
def scan (bytes : ByteArray) : (fuel pos : Nat) → List Mark
  | 0, _ => []
  | fuel + 1, pos =>
    if h : pos < bytes.size then
      match bytes.utf8DecodeChar? pos with
      | some c => char c :: scan bytes fuel (pos + c.utf8Size)
      | none => stray bytes[pos] :: scan bytes fuel (pos + 1)
    else []

/-- The marks of a list of bytes. -/
def ofBytes (bytes : ByteArray) : List Mark :=
  match String.fromUTF8? bytes with
  | some s => ofString s
  | none => scan bytes bytes.size 0

/-- What is shown of some marks: a stray byte is shown as the character for what cannot be shown. -/
def shown (text : List Mark) : String :=
  String.ofList (text.map fun
    | char c => c
    | stray _ => '\ufffd')

/-- Number of bytes a text takes. -/
def byteCount (text : List Mark) : Nat :=
  text.foldl (fun n m => n + m.width) 0

/-- Line and column of the place `bytes` bytes further on, when the text starts at `line` and
`column`. Lines count from one; a column is the number of bytes since the line began. -/
def place : (text : List Mark) → (bytes line column : Nat) → Nat × Nat
  | [], _, line, column => (line, column)
  | m :: rest, bytes, line, column =>
    if bytes < m.width then (line, column + bytes)
    else if m = char '\n' then place rest (bytes - 1) (line + 1) 0
    else place rest (bytes - m.width) line (column + m.width)

@[simp] theorem ofString_append (s t : String) : ofString (s ++ t) = ofString s ++ ofString t := by
  simp [ofString]

@[simp] theorem shown_ofString (s : String) : shown (ofString s) = s := by
  rw [shown, ofString, List.map_map]
  exact (congrArg String.ofList (List.map_id _)).trans String.ofList_toList

theorem ofBytes_toUTF8 (s : String) : ofBytes s.toUTF8 = ofString s := by
  have h : String.fromUTF8? s.toUTF8 = some s := by
    simp only [String.fromUTF8?]
    split
    · rfl
    · rename_i h
      exact absurd s.isValidUTF8 h
  unfold ofBytes
  rw [h]

end Mark

end AuditRelay
