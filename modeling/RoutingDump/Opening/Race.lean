import RoutingDump.Opening.Opener

/-!
# Opener and reader side by side

The opener runs beside its reader, and either may move at any time. A race is a state of both, and
a run of moves is one way in which they can interleave. The opener's calls take time: the reader
may be dropped before a call, during it or after it. Only a wait notices that: in front of a reader
that is gone it is cancelled and never runs out, however short it is.
-/

namespace RoutingDump

/-- Where the opener stands. -/
inductive Station (σ P : Type) where
  | before (attempt : Nat)
  | calling (attempt : Nat)
  | waiting (attempt : Nat)
  | holding (decoder : σ)
  | finished (handover : Handover σ P)

/-- What the reader has done about its opener. -/
inductive Stance (σ P : Type) where
  | apart
  | asking
  | served (handover : Handover σ P)
  | dropped

/-- Opener and reader, the surroundings of the factory, and what happened so far. -/
structure Race (ω σ P : Type) where
  surroundings : ω
  opener : Station σ P := .before 1
  reader : Stance σ P := .apart
  events : List (Event P) := []

/-- A move of the opener, or one of the reader: `ask`, `receive` or `drop`. -/
inductive Move where
  | call
  | answer
  | elapse
  | cancel
  | seed
  | ask
  | receive
  | drop
  deriving DecidableEq, Repr

namespace Race

variable {ω σ P : Type}

/-- A race in which nobody has moved yet. -/
def start (surroundings : ω) : Race ω σ P := { surroundings := surroundings }

def isDropped (r : Race ω σ P) : Bool :=
  match r.reader with
  | .dropped => true
  | _ => false

/-- The race with the opener elsewhere and more events behind it. -/
def advance (r : Race ω σ P) (opener : Station σ P) (events : List (Event P)) : Race ω σ P :=
  { r with opener := opener, events := r.events ++ events }

/-- The factory answers attempt number `attempt`. -/
def hear (F : Format ω σ P) (policy : RetryPolicy) (url : String) (r : Race ω σ P)
    (attempt : Nat) : Race ω σ P :=
  let call := F.attempt r.surroundings
  let reported : List (Event P) := call.notices.map .notice
  let r := { r with surroundings := call.surroundings }
  match call.attempt with
  | .opened decoder => r.advance (.holding decoder) (reported ++ [.notice (.opened url attempt)])
  | .crashed => r.advance (.finished .nothing) reported
  | .failed error =>
    let reported :=
      reported ++ [.notice (.attemptFailed url attempt policy.attempts error)]
    match policy.backoff attempt with
    | some d => r.advance (.waiting attempt) (reported ++ [.wait d])
    | none =>
      if attempt < policy.attempts then r.advance (.before (attempt + 1)) reported
      else
        r.advance (.finished .cannotOpen) (reported ++ [.notice (.gaveUp url policy.attempts)])

/-- The race after a move, if the move can be made. -/
def move? (F : Format ω σ P) (policy : RetryPolicy) (resource : Resource) (r : Race ω σ P) :
    Move → Option (Race ω σ P)
  | .call =>
    match r.opener with
    | .before attempt => some (r.advance (.calling attempt) [.attempt])
    | _ => none
  | .answer =>
    match r.opener with
    | .calling attempt => some (r.hear F policy resource.url attempt)
    | _ => none
  | .elapse =>
    match r.opener with
    | .waiting attempt => if r.isDropped then none else some (r.advance (.before (attempt + 1)) [])
    | _ => none
  | .cancel =>
    match r.opener with
    | .waiting _ =>
      if r.isDropped then
        some (r.advance (.finished .cannotOpen) [.notice (.openCancelled resource.url)])
      else none
    | _ => none
  | .seed =>
    match r.opener with
    | .holding decoder =>
      let seeded := Opener.seed F.toDecoder resource decoder
      some (r.advance (.finished seeded.value) seeded.events)
    | _ => none
  | .ask =>
    match r.reader with
    | .apart => some { r with reader := .asking }
    | _ => none
  | .receive =>
    match r.reader, r.opener with
    | .asking, .finished handover => some { r with reader := .served handover }
    | _, _ => none
  | .drop =>
    match r.reader with
    | .apart | .served _ => some { r with reader := .dropped }
    | .asking | .dropped => none

/-- The race after a run of moves, if all of them can be made. -/
def run? (F : Format ω σ P) (policy : RetryPolicy) (resource : Resource) (r : Race ω σ P) :
    List Move → Option (Race ω σ P)
  | [] => some r
  | m :: ms =>
    match r.move? F policy resource m with
    | none => none
    | some r => r.run? F policy resource ms

/-- Runs compose. -/
theorem run?_append (F : Format ω σ P) (policy : RetryPolicy) (resource : Resource)
    (r : Race ω σ P) (ms ns : List Move) :
    r.run? F policy resource (ms ++ ns) =
      (r.run? F policy resource ms).bind fun r => r.run? F policy resource ns := by
  induction ms generalizing r with
  | nil => rfl
  | cons m ms ih =>
    simp only [List.cons_append, run?]
    cases r.move? F policy resource m with
    | none => rfl
    | some r => exact ih r

@[simp] theorem reader_advance (r : Race ω σ P) (opener : Station σ P)
    (events : List (Event P)) : (r.advance opener events).reader = r.reader := rfl

@[simp] theorem reader_hear (F : Format ω σ P) (policy : RetryPolicy) (url : String)
    (r : Race ω σ P) (attempt : Nat) : (r.hear F policy url attempt).reader = r.reader := by
  unfold hear
  dsimp only
  split
  · rfl
  · rfl
  · split
    · rfl
    · split <;> rfl

theorem isDropped_iff {r : Race ω σ P} : r.isDropped = true ↔ r.reader = .dropped := by
  unfold isDropped
  split <;> simp_all

end Race
end RoutingDump
