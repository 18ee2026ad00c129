import AuditRelay.Json.Skim
import AuditRelay.Json.Write

/-!
# Records

A record is a value with named fields of fixed types. It is written as an object with the fields in
their order. It is read from an object with the members in any order, among members of other names,
or from a list of the fields in their order. A field may have a value that stands for it when it is
absent; every other field has to be there, and no field may be there twice.

A record is described by its fields once, for reading and for writing.
-/

namespace AuditRelay.Json

/-- The fields of a record: `ι` has one value per field. -/
structure Record (ι : Type) [DecidableEq ι] where
  /-- What messages call the record. -/
  title : String
  /-- All fields in their order. -/
  fields : List ι
  name : ι → String
  type : ι → Type
  /-- How the value of a field is read. -/
  read : (i : ι) → Read (type i)
  /-- What stands for a field that is absent. -/
  absent : (i : ι) → Option (type i)
  complete : ∀ i, i ∈ fields

namespace Record

variable {ι : Type} [DecidableEq ι] (r : Record ι)

/-- A value of the record. -/
abbrev Full : Type := (i : ι) → r.type i

/-- The fields read so far. -/
abbrev Draft : Type := (i : ι) → Option (r.type i)

/-- No field was read yet. -/
def blank : r.Draft := fun _ => none

variable {r} in
/-- Fills in a field. -/
def Draft.set (d : r.Draft) (i : ι) (v : r.type i) : r.Draft := fun j =>
  if h : i = j then some (h ▸ v) else d j

/-- The field of a name. -/
def field? (name : String) : Option ι :=
  r.fields.find? fun i => r.name i == name

/-- The number of fields in words. -/
def arity : String :=
  let n := r.fields.length
  toString n ++ (if n = 1 then " element" else " elements")

/-- Reads the members of an object from a draft on. The fuel bounds their number. -/
def members : (fuel : Nat) → (first : Bool) → (d : r.Draft) → Read r.Draft
  | 0, _, _ => fail .endInObject
  | fuel + 1, first, d => do
    if ← nextKey first then
      let k ← key
      match r.field? k with
      | some i =>
        if (d i).isSome then failInObject (.duplicateField k)
        else
          colon
          let v ← r.read i
          members fuel false (d.set i v)
      | none =>
        colon
        skim
        members fuel false d
    else pure d

/-- Reads the items of a list into the given fields; `count` fields came before them. -/
def positions : (fields : List ι) → (count : Nat) → (d : r.Draft) → Read r.Draft
  | [], _, d => pure d
  | i :: rest, count, d => do
    if ← nextItem (count == 0) then
      let v ← r.read i
      positions rest (count + 1) (d.set i v)
    else
      match r.absent i with
      | some v => endOfItems rest (d.set i v) (count + 1)
      | none => failInList (.wrongLength count (r.title ++ " with " ++ r.arity))
where
  /-- The list has ended: every field left over is absent. -/
  endOfItems : (fields : List ι) → (d : r.Draft) → (count : Nat) → Read r.Draft
    | [], d, _ => pure d
    | i :: rest, d, count =>
      match r.absent i with
      | some v => endOfItems rest (d.set i v) (count + 1)
      | none => failInList (.wrongLength count (r.title ++ " with " ++ r.arity))

/-- Whether a field has no value, neither read nor for being absent. -/
def lacks (d : r.Draft) (i : ι) : Bool :=
  (d i).isNone && (r.absent i).isNone

/-- Completes a draft with the values of absent fields, or tells the first field that is missing. -/
def complete? (d : r.Draft) : Except String r.Full :=
  match h : r.fields.find? (r.lacks d) with
  | some i => .error (r.name i)
  | none => .ok fun i =>
    ((d i).or (r.absent i)).get (by
      have hi := List.find?_eq_none.1 h i (r.complete i)
      simp only [lacks, Bool.and_eq_true, Option.isNone_iff_eq_none, not_and] at hi
      cases hd : d i with
      | some v => simp
      | none =>
        have := hi hd
        simpa [Option.isSome_iff_ne_none] using this)

/-- Reads the record from an object whose opening bracket was read. -/
def readObject : Read r.Full := do
  let d ← r.members (← room) true r.blank
  match r.complete? d with
  | .error name => failInObject (.missingField name)
  | .ok v =>
    endObject
    pure v

/-- Reads the record from a list whose opening bracket was read. -/
def readList : Read r.Full := do
  let d ← r.positions r.fields 0 r.blank
  match r.complete? d with
  | .error name => failInList (.missingField name)
  | .ok v =>
    endList
    pure v

/-- Reads the record. -/
def readFull : Read r.Full := do
  match ← valueStart with
  | .char '{' => advance; r.readObject
  | .char '[' => advance; r.readList
  | _ => mismatched r.title

/-- Writes the record; `write` gives the text of a field, or none if the field is left out. -/
def write (write : (i : ι) → Option String) : String :=
  writeObject (r.fields.filterMap fun i => (write i).map fun t => (r.name i, t))

end Record

/-! ## Names -/

/-- Takes a name for one of the given choices. -/
def choice? (choices : List (String × α)) (name : String) : Except Mismatch α :=
  match choices.find? (·.1 == name) with
  | some c => .ok c.2
  | none => .error (.unknownVariant name (choices.map (·.1)))

/-- Reads the name of a choice. -/
def identifier (choices : List (String × α)) : Read α := do
  match choice? choices (← string "variant identifier") with
  | .ok a => pure a
  | .error m => fail (.mismatch m)

/-- Reads a choice without content: its name, or an object from its name to `null`. -/
def variant (choices : List (String × α)) : Read α := do
  match ← valueStart with
  | .char '\"' => identifier choices
  | .char '{' =>
    advance
    if (← valueStart) != .char '\"' then failOn .keyNotString
    let a ← identifier choices
    colon
    unit
    match ← peek with
    | some (.char '}') => advance; pure a
    | some _ => fail .expectedValue
    | none => fail .endInObject
  | _ => failOn .expectedValue

end AuditRelay.Json
