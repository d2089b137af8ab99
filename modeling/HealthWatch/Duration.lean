/-!
# Spans of time and their two texts

A `Duration` is a span of time, exact to the nanosecond.  Two texts are made
from it.  `Duration.text` names the span exactly, in the largest of the units
`s`, `ms`, `µs` and `ns` that it fills, with as few decimals as say it:
`2.007s`, `250ms`, `0ns`.  `Duration.uptime` counts whole hours, minutes and
seconds, and drops what is less than a second: `2h3m0s`, `4m5s`, `12s`.
-/

namespace HealthWatch

/-- A span of time, as a count of nanoseconds. -/
structure Duration where
  nanos : Nat
deriving DecidableEq, Inhabited

namespace Duration

/-- The nanoseconds in a second. -/
def nanosPerSecond : Nat := 1000000000

/-- The nanoseconds in a millisecond. -/
def nanosPerMilli : Nat := 1000000

/-- The nanoseconds in a microsecond. -/
def nanosPerMicro : Nat := 1000

/-- The span of `secs` seconds and `nanos` nanoseconds. -/
def ofParts (secs nanos : Nat) : Duration := ⟨secs * nanosPerSecond + nanos⟩

/-- The span of `secs` whole seconds. -/
def ofSecs (secs : Nat) : Duration := ⟨secs * nanosPerSecond⟩

/-- The span of `millis` whole milliseconds. -/
def ofMillis (millis : Nat) : Duration := ⟨millis * nanosPerMilli⟩

/-- The whole seconds of a span. -/
def secs (d : Duration) : Nat := d.nanos / nanosPerSecond

/-- The nanoseconds of a span beyond its whole seconds. -/
def subsecNanos (d : Duration) : Nat := d.nanos % nanosPerSecond

/-- The last `places` decimal digits of `n`, padded with zeros on the left. -/
def fixedDigits : (places n : Nat) → List Char
  | 0, _ => []
  | places + 1, n => fixedDigits places (n / 10) ++ [Nat.digitChar (n % 10)]

/-- Decimals without the zeros that end them. -/
def trimZeros (ds : List Char) : List Char :=
  (ds.reverse.dropWhile (· == '0')).reverse

/-- The number `whole + part / 10 ^ places` in decimal, without a needless
zero and without a point if it is whole. -/
def decimal (places whole part : Nat) : String :=
  match trimZeros (fixedDigits places part) with
  | [] => toString whole
  | ds => toString whole ++ "." ++ String.ofList ds

/-- The exact text of a span in its largest filled unit. -/
def text (d : Duration) : String :=
  if nanosPerSecond ≤ d.nanos then
    decimal 9 (d.nanos / nanosPerSecond) (d.nanos % nanosPerSecond) ++ "s"
  else if nanosPerMilli ≤ d.nanos then
    decimal 6 (d.nanos / nanosPerMilli) (d.nanos % nanosPerMilli) ++ "ms"
  else if nanosPerMicro ≤ d.nanos then
    decimal 3 (d.nanos / nanosPerMicro) (d.nanos % nanosPerMicro) ++ "µs"
  else
    toString d.nanos ++ "ns"

/-- Whole hours, minutes and seconds, from the first that is not zero. -/
def uptime (d : Duration) : String :=
  let hours := d.secs / 3600
  let minutes := d.secs % 3600 / 60
  let seconds := d.secs % 60
  if 0 < hours then s!"{hours}h{minutes}m{seconds}s"
  else if 0 < minutes then s!"{minutes}m{seconds}s"
  else s!"{seconds}s"

/-- The span as a double, in seconds: its whole seconds and its fraction are
rounded apart, then added. -/
def toSeconds (d : Duration) : Float :=
  Float.ofNat d.secs + Float.ofNat d.subsecNanos / 1e9

/-- The span as a double, in milliseconds. -/
def toMillis (d : Duration) : Float := d.toSeconds * 1000.0

end Duration

end HealthWatch
