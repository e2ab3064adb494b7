import RoutingDump.Event
import RoutingDump.Filters

/-!
# Decoders

The stream drives any decoder of the following shape. The state of a decoder holds everything its
behaviour may depend on, the medium it reads from included. A decoder sees the whole record it is
given and answers with a new body: the origin of a record is none of its business.
-/

namespace RoutingDump

/-- The answer of one decode call. -/
structure Decoded (σ P : Type) where
  outcome : Outcome
  body : Body P
  state : σ
  notices : List Notice := []

/-- What the making of a new record comes to, or of all the records of a reader. -/
inductive Creation (α : Type) where
  | made (result : α)
  | failed (error : DecoderError)
  | crashed

/-- A decoder with states `σ` and payloads `P`: it makes the bodies of new records and decodes
the next message into a record. -/
structure Decoder (σ P : Type) where
  create : σ → Creation (Body P) × σ
  decode : σ → Record P → Decoded σ P
  /-- Whether the call for the first message crashes instead of answering. The opener makes that
  call, and the crash is the end of it. All later calls are made by pulls: a crash there ends the
  caller, so it is nothing that a pull could give. -/
  crashesFirst : σ → Record P → Bool := fun _ _ => false

/-- The answers of `n` calls in a row, each with a record of the given origin whose body has been
cleared. -/
def Decoder.answers {σ P : Type} (D : Decoder σ P) (origin : Origin) :
    (n : Nat) → σ → List (Decoded σ P)
  | 0, _ => []
  | n + 1, state =>
    let a := D.decode state { origin := origin }
    a :: D.answers origin n a.state

/-- What a call of a decoder factory comes to. -/
inductive Attempt (σ : Type) where
  | opened (decoder : σ)
  | failed (error : DecoderError)
  | crashed

/-- A factory call: its result, what it reported, and the surroundings after it. -/
structure Called (ω σ : Type) where
  attempt : Attempt σ
  surroundings : ω
  notices : List Notice := []

/-- A format of dumps: a decoder together with the factory that builds its states out of the
surroundings `ω`. -/
structure Format (ω σ P : Type) extends Decoder σ P where
  attempt : ω → Called ω σ

end RoutingDump
