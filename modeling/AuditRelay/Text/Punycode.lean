/-!
# Words of all scripts in letters, digits and hyphens

A word of any script can be spelled in ASCII: first its ASCII characters and a hyphen, then a number
for every other character, which tells how far the pair of code point and place has moved on since
the character before. Such a number has digits of base 36 from the lowest on, and thresholds that
adapt to the numbers before tell which digit is the last one. Here such spellings are read.
-/

namespace AuditRelay.Text.Punycode

/-- The value of a digit: letters count from zero, decimal digits go on. -/
def digit? (c : Char) : Option Nat :=
  if 'a' ≤ c ∧ c ≤ 'z' then some (c.toNat - 'a'.toNat)
  else if 'A' ≤ c ∧ c ≤ 'Z' then some (c.toNat - 'A'.toNat)
  else if c.isDigit then some (c.toNat - '0'.toNat + 26)
  else none

/-- What is left of a number after as many divisions by 35 as bring it down to 455, and how much
these divisions add to the bias. -/
def shrink (n : Nat) : Nat × Nat :=
  if 455 < n then
    let (small, bias) := shrink (n / 35)
    (small, bias + 36)
  else (n, 0)
termination_by n
decreasing_by exact Nat.div_lt_self (by omega) (by omega)

/-- The bias after a number, where `count` characters are known. -/
def bias (number count : Nat) (isFirst : Bool) : Nat :=
  let damped := number / (if isFirst then 700 else 2)
  let (small, bias) := shrink (damped + damped / count)
  bias + 36 * small / (small + 38)

/-- How far reading has come. -/
structure Progress where
  /-- The characters known so far. -/
  word : List Char
  /-- The code point of the next character, unless it moves on. -/
  point : Nat
  /-- The place of the next character, unless it moves on. -/
  place : Nat
  bias : Nat
  /-- The number read so far. -/
  number : Nat
  /-- The weight of its next digit. -/
  weight : Nat
  /-- The position of its next digit in steps of 36. -/
  position : Nat
  deriving Repr

namespace Progress

/-- Only ASCII characters are known. -/
def start (word : List Char) : Progress := ⟨word, 128, 0, 72, 0, 1, 36⟩

/-- A digit below the threshold ends its number. -/
def threshold (p : Progress) : Nat :=
  min 26 (max 1 (p.position - p.bias))

/-- Puts the next character into its place, once its number is known. -/
def insert? (p : Progress) : Option Progress :=
  let count := p.word.length + 1
  let moved := p.place + p.number
  let point := p.point + moved / count
  if point.isValidChar then
    some ⟨p.word.insertIdx (moved % count) (Char.ofNat point), point, moved % count + 1,
      Punycode.bias p.number count (p.place == 0), 0, 1, 36⟩
  else none

/-- Reads a digit. Numbers and weights fit 32 bits. -/
def read? (p : Progress) (c : Char) : Option Progress :=
  (digit? c).bind fun d =>
    let t := p.threshold
    let number := p.number + d * p.weight
    let weight := p.weight * (36 - t)
    if UInt32.size ≤ p.place + number then none
    else if d < t then { p with number := number }.insert?
    else if UInt32.size ≤ weight then none
    else some { p with number := number, weight := weight, position := p.position + 36 }

end Progress

/-- Reads the characters that are not ASCII into a word. -/
def insertAll? (word digits : List Char) : Option (List Char) :=
  (digits.foldlM Progress.read? (.start word)).bind fun p =>
    if p.position = 36 then some p.word else none

/-- The word of a spelling. What stands in front of the last hyphen are its ASCII characters; a
hyphen needs some of them. -/
def decode? (cs : List Char) : Option (List Char) :=
  let digits := (cs.reverse.takeWhile (· ≠ '-')).reverse
  match cs.take (cs.length - digits.length) with
  | [] => insertAll? [] digits
  | [_] => none
  | front => if front.any (0x80 ≤ ·.toNat) then none else insertAll? front.dropLast digits

end AuditRelay.Text.Punycode
