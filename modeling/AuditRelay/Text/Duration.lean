/-!
# Durations in words

A duration is a number of milliseconds and is written in seconds as soon as it has one.
-/

namespace AuditRelay.Text

/-- Three digits of a fraction, without the zeros at its end. -/
def thousandths (ms : Nat) : String :=
  let digits := (toString (1000 + ms % 1000)).toList.drop 1
  String.ofList ((digits.reverse.dropWhile (· == '0')).reverse)

/-- `120s`, `1.5s`, `5ms`; no time at all is `0ns`. -/
def duration (ms : Nat) : String :=
  if ms = 0 then "0ns"
  else if ms < 1000 then toString ms ++ "ms"
  else if ms % 1000 = 0 then toString (ms / 1000) ++ "s"
  else toString (ms / 1000) ++ "." ++ thousandths ms ++ "s"

end AuditRelay.Text
