/-!
# The shortest decimal that reads back

A binary floating point number stands for every real number that rounds to it. Among the decimals
in that range those with the fewest digits are taken, and of those the one nearest to the number
itself; of two equally near ones the one with an even last digit.
-/

namespace AuditRelay.Decimal

/-- A fraction of natural numbers together with the ends of the range that rounds to it: `low`,
`value` and `high` all stand over `den`. -/
structure Range where
  low : Nat
  value : Nat
  high : Nat
  den : Nat
  /-- Whether the ends themselves round to the value. -/
  closed : Bool

/-- The range of the positive number `mantissa * 2 ^ (exponent - 1074)`. The gap below a power of
two is half as wide as the gap above it. -/
def Range.ofBinary (mantissa exponent : Nat) : Range :=
  let down := if mantissa = Nat.pow 2 52 ∧ 0 < exponent then 1 else 2
  let up := Nat.pow 2 (exponent - 1076)
  { low := (4 * mantissa - down) * up
    value := 4 * mantissa * up
    high := (4 * mantissa + 2) * up
    den := Nat.pow 2 (1076 - exponent)
    closed := mantissa % 2 == 0 }

/-- Multiplies by a power of ten, which may be negative: numerators or the denominator grow. -/
def Range.scale (r : Range) (ten : Int) : Range :=
  let up := Nat.pow 10 ten.toNat
  let down := Nat.pow 10 (-ten).toNat
  { r with low := r.low * up, value := r.value * up, high := r.high * up, den := r.den * down }

/-- Whether a whole number lies in the range. -/
def Range.holds (r : Range) (n : Nat) : Bool :=
  let x := n * r.den
  (r.low < x && x < r.high) || (r.closed && (x == r.low || x == r.high))

/-- Distance of a whole number from the value, over `den`. -/
def Range.distance (r : Range) (n : Nat) : Nat :=
  let x := n * r.den
  (x - r.value) + (r.value - x)

/-- The whole number in the range that is nearest to the value, if there is one. Only the two
neighbours of the value have to be asked: if any whole number is in the range, one of them is. -/
def Range.nearest? (r : Range) : Option Nat :=
  let n := r.value / r.den
  match r.holds n, r.holds (n + 1) with
  | true, true =>
    if r.distance n < r.distance (n + 1) then some n
    else if r.distance (n + 1) < r.distance n then some (n + 1)
    else if n % 2 = 0 then some n else some (n + 1)
  | true, false => some n
  | false, true => some (n + 1)
  | false, false => none

/-- The number of steps by which a value below one has to be multiplied by ten to reach one. -/
def shortfall (value den : Nat) : (fuel : Nat) → Nat
  | 0 => 0
  | fuel + 1 => if den ≤ value then 0 else shortfall (value * 10) den fuel + 1

/-- The power of ten of the leading digit. -/
def Range.magnitude (r : Range) : Int :=
  if r.den ≤ r.value then ((toString (r.value / r.den)).length : Int) - 1
  else -(shortfall r.value r.den 400 : Int)

/-- A decimal: `digits * 10 ^ exponent`. -/
structure Short where
  digits : Nat
  exponent : Int
  deriving DecidableEq, Repr

/-- Looks for a decimal with `found + 1` digits, then with more. -/
def Range.shortest (r : Range) (magnitude : Int) : (fuel found : Nat) → Short
  | 0, _ => ⟨r.value / r.den, 0⟩
  | fuel + 1, found =>
    let exponent := magnitude - found
    match (r.scale (-exponent)).nearest? with
    | some n => ⟨n, exponent⟩
    | none => r.shortest magnitude fuel (found + 1)

/-- The shortest decimal of a positive finite number. Seventeen digits always suffice. -/
def shortest (f : Float) : Short :=
  let bits := f.toBits.toNat
  let fraction := bits % Nat.pow 2 52
  let exponent := bits / Nat.pow 2 52 % 0x800
  let r :=
    if exponent = 0 then Range.ofBinary fraction 0
    else Range.ofBinary (fraction + Nat.pow 2 52) (exponent - 1)
  r.shortest r.magnitude 18 0

/-- Drops the zeros at the end of a list of digits. -/
def dropZeros (digits : List Char) : List Char :=
  (digits.reverse.dropWhile (· == '0')).reverse

/-- How a decimal is laid out. -/
structure Layout where
  /-- Powers of ten of the leading digit that are written out without an exponent. -/
  least : Int
  most : Int
  /-- Number of digits an exponent has at least. -/
  exponentDigits : Nat

/-- Digits around a point: the leading digit has the power of ten `power`. -/
def positional (digits : List Char) (power : Int) : String :=
  if power < 0 then
    "0." ++ String.ofList (List.replicate (-power - 1).toNat '0' ++ digits)
  else
    let whole := power.toNat + 1
    let filled := digits ++ List.replicate (whole - digits.length) '0'
    let fraction := filled.drop whole
    String.ofList (filled.take whole) ++ "."
      ++ (if fraction.isEmpty then "0" else String.ofList fraction)

/-- One digit, the others behind a point, and the power of ten with its sign. -/
def scientific (layout : Layout) (digits : List Char) (power : Int) : String :=
  let exponent := toString power.natAbs
  let exponent :=
    String.ofList (List.replicate (layout.exponentDigits - exponent.length) '0') ++ exponent
  String.ofList (digits.take 1)
    ++ (if digits.length ≤ 1 then "" else "." ++ String.ofList (digits.drop 1))
    ++ "e" ++ (if power < 0 then "-" else "+") ++ exponent

/-- The text of a finite number in a given layout; zero keeps its sign. -/
def format (layout : Layout) (f : Float) : String :=
  let sign := if UInt64.size / 2 ≤ f.toBits.toNat then "-" else ""
  if f == 0 then sign ++ "0.0"
  else
    let short := shortest f.abs
    let all := (toString short.digits).toList
    let power := short.exponent + all.length - 1
    let digits := dropZeros all
    if layout.least ≤ power ∧ power ≤ layout.most then sign ++ positional digits power
    else sign ++ scientific layout digits power

end AuditRelay.Decimal
