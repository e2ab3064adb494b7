import RoutingDump.Decoder

/-!
# Obstacles

A factory call can be made to fail, or is known to have failed already. Obstacles stand in front of
a format and take its calls one by one; a call without an obstacle goes through.
-/

namespace RoutingDump

/-- How a factory call is made to fail. -/
inductive Obstacle where
  | error (e : DecoderError)
  | crash

/-- A format whose first factory calls fail as listed. Calls without an obstacle go through. -/
def Format.obstructed {ω σ P : Type} (F : Format ω σ P) :
    Format (List (Option Obstacle) × ω) σ P where
  toDecoder := F.toDecoder
  attempt := fun (obstacles, w) =>
    match obstacles with
    | some (.error e) :: rest => { attempt := .failed e, surroundings := (rest, w) }
    | some .crash :: rest => { attempt := .crashed, surroundings := (rest, w) }
    | obstacles =>
      let call := F.attempt w
      { attempt := call.attempt, surroundings := (obstacles.drop 1, call.surroundings)
        notices := call.notices }

end RoutingDump
