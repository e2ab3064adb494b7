import RoutingDump.Opening.Opener

/-!
# Readers

A reader is created at once and opens in the background. The first call that needs the stream
waits for the opener; what it receives is kept for good. Only pulls advance the stream.

Nothing but the hand-over connects reader and opener, so the opener's run is computed where its
result is first needed, or where the reader is given up.
-/

namespace RoutingDump

/-- How far a reader is. A failed open remembers whether the opener crashed. -/
inductive Phase (ω σ P : Type) where
  | opening (surroundings : ω)
  | streaming (stream : Stream σ P)
  | failed (crashed : Bool)

/-- A reader of one resource, with the surroundings `ω` as long as it opens. -/
structure Reader (ω σ P : Type) where
  resource : Resource
  policy : RetryPolicy
  phase : Phase ω σ P

namespace Reader

variable {ω σ P : Type}

/-- A reader whose opener has not been waited for. -/
def start (resource : Resource) (policy : RetryPolicy) (surroundings : ω) : Reader ω σ P where
  resource := resource
  policy := policy
  phase := .opening surroundings

/-- What is said when a reader is created, before its opener says anything. -/
def creation (r : Reader ω σ P) : Event P := .notice (.created r.resource.url)

/-- Receives what the opener hands over, if that has not happened yet. -/
def resolve (F : Format ω σ P) (r : Reader ω σ P) : Traced P (Reader ω σ P) :=
  match r.phase with
  | .opening w =>
    let ⟨events, handover, _⟩ := Opener.run F r.policy r.resource (fun _ => false) w
    match handover with
    | .stream s =>
      { events := events ++ [.notice (.ready r.resource.url)]
        value := { r with phase := .streaming s } }
    | .cannotOpen => { events := events, value := { r with phase := .failed false } }
    | .nothing =>
      { events := events ++ [.notice (.openerSilent r.resource.url)]
        value := { r with phase := .failed true } }
  | _ => { events := [], value := r }

/-- Waits until the dump is open. -/
def openWait (F : Format ω σ P) (r : Reader ω σ P) :
    Traced P (Except ReaderError Unit × Reader ω σ P) :=
  let ⟨events, r⟩ := r.resolve F
  match r.phase with
  | .streaming _ => { events := events, value := (.ok (), r) }
  | _ => { events := events, value := (.error (.cannotOpen r.resource.url), r) }

/-- The time of the next record, as far as one was decoded. -/
def nextTime (F : Format ω σ P) (r : Reader ω σ P) :
    Traced P (Except ReaderError (Option UInt32) × Reader ω σ P) :=
  let ⟨events, r⟩ := r.resolve F
  match r.phase with
  | .streaming s => { events := events, value := (.ok s.nextTime, r) }
  | _ => { events := events, value := (.error (.cannotOpen r.resource.url), r) }

/-- Advances the stream by one record. If the dump did not open, every call gives the same record
with the status `corruptedSource`. -/
def next (F : Format ω σ P) (r : Reader ω σ P) : Traced P (Pull P × Reader ω σ P) :=
  let ⟨events, r⟩ := r.resolve F
  match r.phase with
  | .streaming s =>
    let ⟨later, pull, s⟩ := s.advance F.toDecoder
    { events := events ++ later, value := (pull, { r with phase := .streaming s }) }
  | _ =>
    { events := events, value := (.endOfStream (some (.ofFailedOpen r.resource)), r) }

/-- Gives the reader up. An opener that nobody has waited for is cancelled: it finds the reader
gone at its first wait. -/
def drop (F : Format ω σ P) (r : Reader ω σ P) : List (Event P) :=
  let crash : Event P := .notice (.openerCrashed r.resource.url)
  match r.phase with
  | .opening w =>
    let ⟨events, handover, _⟩ := Opener.run F r.policy r.resource (fun _ => true) w
    match handover with
    | .nothing => events ++ [crash]
    | _ => events
  | .streaming _ => []
  | .failed crashed => if crashed then [crash] else []

/-- What others do to the medium between two calls: `before` as long as the reader opens, `after`
once a decoder holds the medium. -/
def disturb (before : ω → ω) (after : σ → σ) (r : Reader ω σ P) : Reader ω σ P :=
  match r.phase with
  | .opening w => { r with phase := .opening (before w) }
  | .streaming s => { r with phase := .streaming { s with decoder := after s.decoder } }
  | .failed _ => r

end Reader
end RoutingDump
