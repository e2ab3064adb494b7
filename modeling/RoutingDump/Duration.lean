import RoutingDump.Text.Numeral

/-!
# Durations

A duration is a number of whole seconds and a rest in nanoseconds, both in words. Multiplication
saturates at the longest duration instead of overflowing: a retry policy doubles its wait after
every failure and is free to ask for more than words can hold.
-/

namespace RoutingDump

/-- A length of time: seconds and a rest of less than one second. -/
structure Duration where
  secs : UInt64
  nanos : UInt32
  nanos_lt : nanos.toNat < 1000000000 := by decide

namespace Duration

instance : DecidableEq Duration := fun a b =>
  if h : a.secs = b.secs ∧ a.nanos = b.nanos then
    isTrue (by cases a; cases b; simp_all)
  else isFalse (fun e => h (by subst e; exact ⟨rfl, rfl⟩))

/-- Nanoseconds in a second. -/
def nanosPerSec : Nat := 1000000000

/-- The longest duration. -/
def longest : Duration where
  secs := 18446744073709551615
  nanos := 999999999

def zero : Duration where
  secs := 0
  nanos := 0

/-- The whole length in nanoseconds. -/
def totalNanos (d : Duration) : Nat := d.secs.toNat * nanosPerSec + d.nanos.toNat

/-- The duration of `secs` seconds and the rest that `nanos` leaves after whole seconds, where
the seconds in `nanos` are already counted in `secs`. -/
def ofParts (secs nanos : Nat) : Duration where
  secs := UInt64.ofNat secs
  nanos := UInt32.ofNat (nanos % nanosPerSec)
  nanos_lt := by
    have h : nanos % nanosPerSec < 1000000000 := Nat.mod_lt _ (by decide)
    simp only [UInt32.toNat_ofNat']
    exact Nat.lt_of_le_of_lt (Nat.mod_le _ _) h

/-- Seconds and nanoseconds, where whole seconds in the nanoseconds carry over. A sum that words
cannot hold is the longest duration. -/
def ofSecsNanos (secs nanos : Nat) : Duration :=
  let whole := secs + nanos / nanosPerSec
  if whole ≤ Text.maxWord64 then ofParts whole nanos else longest

def ofMillis (ms : Nat) : Duration := ofParts (ms / 1000) (ms % 1000 * 1000000)

/-- `d` taken `factor` times, unless that is longer than the longest duration. The nanoseconds
are multiplied first and their whole seconds carried over. -/
def saturatingMul (d : Duration) (factor : Nat) : Duration :=
  let nanos := d.nanos.toNat * factor
  let secs := d.secs.toNat * factor
  if secs ≤ Text.maxWord64 then
    let whole := secs + nanos / nanosPerSec
    if whole ≤ Text.maxWord64 then ofParts whole nanos else longest
  else longest

end Duration
end RoutingDump
