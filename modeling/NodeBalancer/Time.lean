/-!
# Instants and durations

Both count whole nanoseconds.  An instant is a reading of a clock that never runs backwards; it may
lie before the clock's own zero, but not after the last second that a signed 64-bit count can name,
so a duration cannot be added to every instant.
-/

namespace NodeBalancer

structure Duration where
  nanos : Nat
deriving DecidableEq

namespace Duration

def nanosPerSecond : Nat := 1000000000

def zero : Duration := ⟨0⟩

def ofParts (seconds nanos : Nat) : Duration :=
  ⟨seconds * nanosPerSecond + nanos⟩

def ofSeconds (seconds : Nat) : Duration :=
  ofParts seconds 0

def isZero (d : Duration) : Bool :=
  d.nanos == 0

def wholeSeconds (d : Duration) : Nat :=
  d.nanos / nanosPerSecond

/-- What is left beyond the whole seconds, in nanoseconds. -/
def subsecondNanos (d : Duration) : Nat :=
  d.nanos % nanosPerSecond

/-- The digits behind the decimal point of `rest / 10 ^ places`, without zeros at the end. -/
def fractionDigits (places rest : Nat) : List Char :=
  let digits := List.leftpad places '0' (Nat.toDigits 10 rest)
  (digits.reverse.dropWhile (· == '0')).reverse

/-- A count of units, each of which is `10 ^ places` nanoseconds. -/
def inUnits (nanos places : Nat) (unit : String) : String :=
  let fraction := fractionDigits places (nanos % Nat.pow 10 places)
  let point := if fraction.isEmpty then [] else '.' :: fraction
  toString (nanos / Nat.pow 10 places) ++ String.ofList point ++ unit

/-- Shown in the largest unit that does not exceed the duration, with as many decimals as it
needs. -/
def describe (d : Duration) : String :=
  if 1000000000 ≤ d.nanos then inUnits d.nanos 9 "s"
  else if 1000000 ≤ d.nanos then inUnits d.nanos 6 "ms"
  else if 1000 ≤ d.nanos then inUnits d.nanos 3 "µs"
  else toString d.nanos ++ "ns"

end Duration

structure Instant where
  nanos : Int
deriving DecidableEq

namespace Instant

/-- The last instant there is. -/
def last : Instant := ⟨0x8000000000000000 * 1000000000 - 1⟩

/-- The instant `d` after `t`, if there is one. -/
def add? (t : Instant) (d : Duration) : Option Instant :=
  if t.nanos + d.nanos ≤ last.nanos then some ⟨t.nanos + d.nanos⟩ else none

/-- Later than `t` by `d`, without regard to the last instant. -/
def after (t : Instant) (d : Duration) : Instant :=
  ⟨t.nanos + d.nanos⟩

/-- The largest number of nanoseconds that fits a 64-bit word. -/
def nanosCap : Nat := UInt64.size - 1

/-- Nanoseconds from `epoch` to `t`, kept between zero and the cap. -/
def sinceCapped (t epoch : Instant) : Nat :=
  min (t.nanos - epoch.nanos).toNat nanosCap

end Instant

end NodeBalancer
