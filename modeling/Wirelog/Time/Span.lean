/-!
Lengths of time, counted in nanoseconds.
-/
namespace Wirelog.Time

/-- A length of time in nanoseconds. -/
abbrev Span := Nat

namespace Span

/-- Microseconds. -/
def ofMicros (n : Nat) : Span :=
  n * 1000

/-- Milliseconds. -/
def ofMillis (n : Nat) : Span :=
  n * 1000000

/-- Seconds. -/
def ofSeconds (n : Nat) : Span :=
  n * 1000000000

/-- Whole milliseconds. -/
def toMillis (s : Span) : Nat :=
  s / 1000000

/-- The greatest number of milliseconds that an archive can write. -/
def maxMillis : Nat :=
  Int64.maxValue.toNatClampNeg

/-- Whole milliseconds as an archive writes them: longer times are written as the greatest one. -/
def recorded (s : Span) : Int64 :=
  Int64.ofNat (min s.toMillis maxMillis)

end Span
end Wirelog.Time
