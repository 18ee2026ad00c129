import AuditRelay.Event
import AuditRelay.Failure
import AuditRelay.Settings
import AuditRelay.Text.Blank

/-!
# Which events are written

A filter lets the events of one severity and of all more important ones pass. It is given by a name
or by a number.
-/

namespace AuditRelay.Logging

/-- The least important severity that passes; `none` lets nothing pass. -/
abbrev Filter := Option Severity

namespace Filter

/-- The name of a filter. -/
def name : Filter → String
  | none => "off"
  | some .error => "error"
  | some .warn => "warn"
  | some .info => "info"
  | some .debug => "debug"
  | some .trace => "trace"

/-- All filters, from nothing to everything; the place is the number of the filter. -/
def all : List Filter :=
  [none, some .error, some .warn, some .info, some .debug, some .trace]

/-- Whether an event of a severity passes. -/
def passes (f : Filter) (s : Severity) : Bool :=
  match f with
  | none => false
  | some least => s.rank ≤ least.rank

/-- A number in decimal digits with an optional plus sign, if it fits 64 bits. -/
def number? (s : String) : Option Nat :=
  let digits := match s.toList with
    | '+' :: rest => rest
    | cs => cs
  if digits.isEmpty || !digits.all Char.isDigit then none
  else
    let n := digits.foldl (fun n c => 10 * n + (c.toNat - '0'.toNat)) 0
    if n < UInt64.size then some n else none

/-- The filter of a name in either case or of a number. -/
def named? (s : String) : Option Filter :=
  all.find? fun f => Text.eqIgnoringCase s f.name

/-- Reads a filter; the empty text stands for errors only. -/
def parse? (s : String) : Option Filter :=
  match (number? s).bind fun n => all[n]? with
  | some f => some f
  | none => if s = "" then some (some .error) else named? s

/-- What is said about a text that is no filter. -/
def expectation : String :=
  "error parsing level filter: expected one of \"off\", \"error\", \"warn\", \"info\", "
    ++ "\"debug\", \"trace\", or a number 0-5"

end Filter

/-- The filter that log settings ask for. -/
def filterOf (s : LogSettings) : Except Failure Filter :=
  match Filter.parse? s.level with
  | some f => .ok f
  | none =>
    .error (.logging ("invalid log level '" ++ s.level ++ "': " ++ Filter.expectation))

end AuditRelay.Logging
