import AuditRelay.Nats.Domain
import AuditRelay.Text.Blank

/-!
# Hosts

A host is named, or it is given by an address of version 4 or 6. In an address of a kind that is
well known a host is a domain, and numbers between points are an address. Elsewhere a host that is
not in brackets is a plain name.
-/

namespace AuditRelay.Nats

/-- A host. -/
inductive Host where
  | name (s : String)
  /-- An address of 32 bits. -/
  | four (n : Nat)
  /-- An address of eight pieces with 16 bits each. -/
  | six (pieces : List Nat)
  deriving DecidableEq, Repr

namespace Host

/-- Why a text is no host. -/
inductive Fault where
  | empty
  | character
  | domain
  | four
  | six
  deriving DecidableEq, Repr

/-- The number that digits have in a base, if all of them are digits. -/
def digits? (base : Nat) (cs : List Char) : Option Nat :=
  cs.foldlM (fun n c =>
    (Text.Hex.value? c).bind fun d => if d < base then some (base * n + d) else none) 0

/-! ## Version 4 -/

/-- The number of a part: hexadecimal behind `0x`, octal behind another zero, and else decimal. -/
def part? : List Char → Option Nat
  | [] => none
  | '0' :: 'x' :: cs => digits? 16 cs
  | '0' :: 'X' :: cs => digits? 16 cs
  | '0' :: cs => digits? 8 cs
  | cs => digits? 10 cs

/-- Leaves out an empty part at the end. -/
def dropEmptyLast (parts : List (List Char)) : List (List Char) :=
  if 1 < parts.length && parts.getLast?.any List.isEmpty then parts.dropLast else parts

/-- The number of an address: at most four parts, all but the last of which are bytes; the last one
fills what is left. -/
def number? (numbers : List Nat) : Option Nat :=
  match numbers.reverse with
  | [] => none
  | last :: bytes =>
    if 3 < bytes.length || bytes.any (255 < ·) || 1 <<< (8 * (4 - bytes.length)) ≤ last then none
    else some (bytes.reverse.foldl (fun n b => 256 * n + b) 0 <<< (8 * (4 - bytes.length)) + last)

/-- Reads an address of version 4. -/
def four? (cs : List Char) : Option Nat :=
  ((dropEmptyLast (Domain.split '.' cs)).mapM part?).bind number?

/-- Whether the last part of a domain is a number, so that the domain has to be an address. -/
def endsInNumber (cs : List Char) : Bool :=
  match (dropEmptyLast (Domain.split '.' cs)).getLast? with
  | none => false
  | some last => (!last.isEmpty && last.all Char.isDigit) || (part? last).isSome

/-! ## Version 6 -/

/-- Reads a byte in decimal digits without zeros in front. -/
def byte? (cs : List Char) : Option Nat :=
  if cs.isEmpty || 3 < cs.length || (1 < cs.length && cs.head? == some '0') then none
  else (digits? 10 cs).filter (· ≤ 255)

/-- Reads a piece: up to four hexadecimal digits. -/
def piece? (cs : List Char) : Option Nat :=
  if cs.isEmpty || 4 < cs.length then none else digits? 16 cs

/-- Reads the last pieces: four bytes between points, or one piece. -/
def lastPieces? (cs : List Char) : Option (List Nat) :=
  if cs.contains '.' then
    match (Domain.split '.' cs).mapM byte? with
    | some [a, b, c, d] => some [256 * a + b, 256 * c + d]
    | _ => none
  else (piece? cs).map ([·])

/-- Reads pieces between colons. -/
def pieces? (cs : List Char) : Option (List Nat) :=
  let parts := Domain.split ':' cs
  match parts.getLast? with
  | none => none
  | some last => do
    let front ← parts.dropLast.mapM piece?
    pure (front ++ (← lastPieces? last))

/-- Splits a text at the first two colons in a row. -/
def splitGap? : List Char → Option (List Char × List Char)
  | ':' :: ':' :: cs => some ([], cs)
  | c :: cs => (splitGap? cs).map fun p => (c :: p.1, p.2)
  | [] => none

/-- Reads an address of version 6. Two colons in a row stand once for one or more pieces that are
zero. -/
def six? (cs : List Char) : Option (List Nat) :=
  let some? (cs : List Char) : Option (List Nat) := if cs.isEmpty then some [] else pieces? cs
  match splitGap? cs with
  | none => (pieces? cs).filter (·.length = 8)
  | some (front, back) => do
    if front.contains '.' then none
    let front ← some? front
    let back ← some? back
    if 7 < front.length + back.length then none
    else pure (front ++ List.replicate (8 - front.length - back.length) 0 ++ back)

/-- Reads an address of version 6 in brackets, the first of which is gone. -/
def bracketed (cs : List Char) : Except Fault Host :=
  match cs.getLast?, six? cs.dropLast with
  | some ']', some pieces => .ok (.six pieces)
  | _, _ => .error .six

/-! ## Names -/

/-- The characters that cannot stand in a plain name. -/
def isForbidden (c : Char) : Bool :=
  "\x00\t\n\r #/:<>?@[\\]^|".toList.contains c

/-- Reads a host that is a plain name or in brackets. -/
def ofName : List Char → Except Fault Host
  | '[' :: cs => bracketed cs
  | cs => if cs.any isForbidden then .error .character else .ok (.name (String.ofList cs))

/-! ## Domains -/

/-- Reads a host that is a domain or in brackets. -/
def ofDomain : List Char → Except Fault Host
  | '[' :: cs => bracketed cs
  | cs =>
    match Domain.ofText? cs with
    | none => .error .domain
    | some [] => .error .empty
    | some domain =>
      if endsInNumber domain then
        match four? domain with
        | some n => .ok (.four n)
        | none => .error .four
      else .ok (.name (String.ofList domain))

/-! ## Where a host is -/

/-- The name of the machine itself. -/
def thisMachine : String := "localhost"

/-- Whether nobody has to be asked where a host is. -/
def isKnown : Host → Bool
  | name s => Text.eqIgnoringCase s thisMachine || (four? s.toList).isSome
  | _ => true

end Host

end AuditRelay.Nats
