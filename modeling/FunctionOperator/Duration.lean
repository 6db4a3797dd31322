/-!
# Durations

Lengths of time in whole nanoseconds, up to what 64 bits of seconds can count. Sums and products
that would exceed this are refused, never wrapped.
-/

namespace FunctionOperator

/-- The longest duration in nanoseconds: 64 bits of seconds and all but one nanosecond more. -/
def Duration.limit : Nat := 18_446_744_073_709_551_615 * 1_000_000_000 + 999_999_999

/-- A length of time. -/
structure Duration where
  /-- The length in nanoseconds. -/
  nanos : Nat
  /-- The length can be represented. -/
  nanos_le : nanos ≤ Duration.limit
deriving DecidableEq

namespace Duration

/-- The duration of a number of nanoseconds, if it can be represented. -/
def ofNanos? (nanos : Nat) : Option Duration :=
  if h : nanos ≤ limit then some ⟨nanos, h⟩ else none

/-- The duration of seconds and further nanoseconds, if it can be represented. -/
def ofParts? (seconds nanos : Nat) : Option Duration :=
  ofNanos? (seconds * 1_000_000_000 + nanos)

/-- The empty duration. -/
def zero : Duration := ⟨0, Nat.zero_le _⟩

instance : Inhabited Duration := ⟨zero⟩

/-- A number of milliseconds that fits 32 bits. -/
def milliseconds (count : Nat) (h : count < 4_294_967_296 := by decide) : Duration :=
  ⟨count * 1_000_000, by simp only [limit]; omega⟩

/-- The whole seconds of a duration. -/
def seconds (d : Duration) : Nat := d.nanos / 1_000_000_000

/-- The nanoseconds beyond the whole seconds. -/
def subsecond (d : Duration) : Nat := d.nanos % 1_000_000_000

/-- A multiple of a duration, if it can be represented. -/
def times? (d : Duration) (factor : Nat) : Option Duration :=
  ofNanos? (d.nanos * factor)

/-- The shorter of two durations. -/
def shorter (first second : Duration) : Duration :=
  if first.nanos ≤ second.nanos then first else second

@[simp] theorem nanos_shorter (first second : Duration) :
    (first.shorter second).nanos = min first.nanos second.nanos := by
  simp only [shorter, Nat.min_def]
  split <;> rfl

end Duration

end FunctionOperator
