import RoutingDump.Duration

/-!
# Retry policy

How often an open is attempted and how long to wait in between. The wait doubles after every
failure.
-/

namespace RoutingDump

/-- How often to try, and how long to wait after the first failure. -/
structure RetryPolicy where
  maxAttempts : UInt32 := 5
  firstWait : Duration := { secs := 10, nanos := 0 }
  deriving DecidableEq

namespace RetryPolicy

/-- The largest factor that a wait is multiplied with. -/
def maxFactor : Nat := Text.maxWord32

/-- How many first waits the wait after failed attempt number `attempt` lasts. -/
def factor (attempt : Nat) : Nat :=
  if attempt - 1 < 32 then Nat.pow 2 (attempt - 1) else maxFactor

/-- The wait after failed attempt number `attempt`, counted from one. The last attempt is
followed by none. -/
def backoff (p : RetryPolicy) (attempt : Nat) : Option Duration :=
  if attempt ≥ p.maxAttempts.toNat then none
  else some (p.firstWait.saturatingMul (factor attempt))

/-- The number of attempts made. There is always at least one. -/
def attempts (p : RetryPolicy) : Nat := max 1 p.maxAttempts.toNat

end RetryPolicy
end RoutingDump
