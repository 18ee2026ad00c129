import AuditRelay.Json.Read
import AuditRelay.Json.Write

/-!
# Values of any shape

A value of unknown shape is kept as it stands, with the members of objects in the order of the text
and as often as they occur there. It may be nested to a fixed depth only.
-/

namespace AuditRelay.Json

/-- A value of any shape. -/
inductive Value where
  | null
  | bool (b : Bool)
  | number (n : Number)
  | text (s : String)
  | list (items : List Value)
  | object (members : List (String × Value))

namespace Value

/-- The words a message has for a value. -/
def found : Value → Found
  | null => .null
  | bool b => .bool b
  | number n => .number n
  | text s => .text s
  | list _ => .sequence
  | object _ => .map

mutual

/-- The compact text of a value. -/
def print : Value → String
  | null => "null"
  | bool b => writeBool b
  | number n => n.print
  | text s => writeString s
  | list items => writeList (printItems items)
  | object members => writeObject (printMembers members)

/-- The texts of the items of a list. -/
def printItems : List Value → List String
  | [] => []
  | v :: rest => v.print :: printItems rest

/-- The texts of the members of an object. -/
def printMembers : List (String × Value) → List (String × String)
  | [] => []
  | (k, v) :: rest => (k, v.print) :: printMembers rest

end

/-- Reads a value that lies in fewer than `depth` lists and objects, itself included, none of which
has `fuel` or more members. -/
def read (fuel : Nat) : (depth : Nat) → Read Value
  | 0 => failOn .tooDeep
  | depth + 1 => do
    match ← valueStart with
    | .char 'n' => advance; word ['u', 'l', 'l']; pure null
    | .char 't' => advance; word ['r', 'u', 'e']; pure (bool true)
    | .char 'f' => advance; word ['a', 'l', 's', 'e']; pure (bool false)
    | .char '-' => advance; number <$> Json.number false
    | .char '\"' => advance; text <$> Json.text
    | .char '[' =>
      if depth = 0 then failOn .tooDeep
      else
        advance
        let vs ← items (read fuel depth) fuel true
        endList
        pure (list vs)
    | .char '{' =>
      if depth = 0 then failOn .tooDeep
      else
        advance
        let vs ← entries (read fuel depth) fuel true
        endObject
        pure (object vs)
    | m =>
      if (digit? m).isSome then number <$> Json.number true else failOn .expectedValue

/-- How deep a text may be nested, plus one. -/
def maxDepth : Nat := 128

/-- Reads a text that holds one value. -/
def parse (text : List Mark) : Except Error Value :=
  (whole (read (text.length + 1) maxDepth)).run text

/-- The value of a member of an object; of several the last. -/
def get? (v : Value) (name : String) : Option Value :=
  match v with
  | object members => (members.reverse.find? (·.1 == name)).map (·.2)
  | _ => none

/-- Puts a member into members that are sorted by name; one of the same name gives way. -/
def insertMember (k : String) (v : Value) : List (String × Value) → List (String × Value)
  | [] => [(k, v)]
  | (l, w) :: rest =>
    if k < l then (k, v) :: (l, w) :: rest
    else if k = l then (k, v) :: rest
    else (l, w) :: insertMember k v rest

mutual

/-- The same value with the members of every object sorted by name; of several with one name the
last. -/
def canonical : Value → Value
  | list items => list (canonicalItems items)
  | object members => object (canonicalMembers members [])
  | v => v

/-- The items of a list, each in that order. -/
def canonicalItems : List Value → List Value
  | [] => []
  | v :: rest => v.canonical :: canonicalItems rest

/-- Puts members into sorted ones. -/
def canonicalMembers : List (String × Value) → List (String × Value) → List (String × Value)
  | [], sorted => sorted
  | (k, v) :: rest, sorted => canonicalMembers rest (insertMember k v.canonical sorted)

end

end Value

end AuditRelay.Json
