import RoutingDump.Duration
import RoutingDump.Notice
import RoutingDump.Record

/-!
# Events

Opening and pulling are traced: besides its result an operation says, in order, what it did that
others can observe. The log, the number of attempts and the use of the two slots are all read off
the trace.
-/

namespace RoutingDump

/-- The two places that hold a record each. -/
inductive Side where
  | left
  | right
  deriving DecidableEq, Repr, Inhabited

namespace Side

def other : Side → Side
  | .left => .right
  | .right => .left

def index : Side → Nat
  | .left => 0
  | .right => 1

@[simp] theorem other_other (s : Side) : s.other.other = s := by cases s <;> rfl

@[simp] theorem other_ne (s : Side) : s.other ≠ s := by cases s <;> decide

end Side

/-- One observable step: a notice, a call of the decoder factory, a wait between two calls, or a
call of the decoder with the record in the given slot. -/
inductive Event (P : Type) where
  | notice (n : Notice)
  | attempt
  | wait (d : Duration)
  | decode (slot : Side) (record : Record P)

namespace Event

variable {P : Type}

def notice? : Event P → Option Notice
  | .notice n => some n
  | _ => none

def decode? : Event P → Option (Side × Record P)
  | .decode slot record => some (slot, record)
  | _ => none

def wait? : Event P → Option Duration
  | .wait d => some d
  | _ => none

def isAttempt : Event P → Bool
  | .attempt => true
  | _ => false

/-- The notices of a trace. -/
def notices (es : List (Event P)) : List Notice := es.filterMap notice?

/-- The decoder calls of a trace. -/
def decodes (es : List (Event P)) : List (Side × Record P) := es.filterMap decode?

/-- The waits of a trace. -/
def waits (es : List (Event P)) : List Duration := es.filterMap wait?

/-- How often the factory was called. -/
def attempts (es : List (Event P)) : Nat := es.countP isAttempt

end Event

/-- A result with the events on the way to it. -/
structure Traced (P α : Type) where
  events : List (Event P)
  value : α

end RoutingDump
