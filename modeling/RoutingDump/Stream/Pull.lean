import RoutingDump.Stream.Buffer

/-!
# Pulling records

An open stream decodes one record ahead. A pull gives up the record handed out before, exchanges
the roles of the slots, decodes into the slot just freed and hands out the other one. Because the
decoder is always one record ahead, an end of the dump can still be marked on the last record
before the caller sees it.
-/

namespace RoutingDump

/-- The life of an open stream. -/
inductive Lifecycle where
  | active
  | exhausted
  | failed
  deriving DecidableEq, Repr

/-- What a pull gives. The end of a stream carries a record only if the dump never opened. -/
inductive Pull (P : Type) where
  | ok (record : Record P)
  | again
  | endOfStream (failure : Option (Record P))
  | error (e : ReaderError)

namespace Pull

variable {P : Type}

def status : Pull P → String
  | .ok _ => "ok"
  | .again => "again"
  | .endOfStream _ => "end-of-stream"
  | .error _ => "error"

def record? : Pull P → Option (Record P)
  | .ok record => some record
  | .endOfStream failure => failure
  | .again | .error _ => none

def error? : Pull P → Option ReaderError
  | .error e => some e
  | _ => none

end Pull

/-- An open stream. `nextTime` is the time of the record waiting in the buffer, as far as one was
decoded. -/
structure Stream (σ P : Type) where
  resource : Resource
  decoder : σ
  buffer : Buffer P
  state : Lifecycle := .active
  nextTime : Option UInt32 := none

namespace Stream

variable {σ P : Type}

/-- Takes in the answer of a decode call made for the slot ahead. Bad messages are records too.
A live stream ignores the end of a dump. The last message before the true end of a dump is marked
while it waits to be handed out. -/
def absorb (s : Stream σ P) (a : Decoded σ P) : Stream σ P × List Notice :=
  let record : Record P := { s.buffer.prefetch.record with body := a.body }
  let buffer := s.buffer.setPrefetch { s.buffer.prefetch with record := record }
  let filled := s.buffer.setPrefetch { record := record, filled := true }
  if a.outcome = .readError then
    ({ s with decoder := a.state, buffer := buffer, state := .failed }, [])
  else if s.resource.isLive && a.outcome.endsDump then
    ({ s with decoder := a.state, buffer := buffer }, [])
  else if a.outcome.isMessageError then
    ({ s with decoder := a.state, buffer := filled }, [])
  else
    let waiting := s.buffer.exported
    let atEnd := a.outcome = .endOfDump ∧ a.body.position = .last ∧ waiting.filled = true
    let buffer := if a.outcome = .endOfDump then buffer else filled
    let buffer :=
      if atEnd then
        buffer.setExported
          { waiting with record := { waiting.record with
              body := { waiting.record.body with position := .last } } }
      else buffer
    let s := { s with decoder := a.state, buffer := buffer, nextTime := some a.body.sec }
    if a.outcome.endsDump then
      ({ s with state := .exhausted }, [.exhausted s.resource.url a.outcome])
    else (s, [])

/-- Decodes into the slot ahead. The result is the outcome of the decode call. -/
def prefetch (D : Decoder σ P) (s : Stream σ P) : Traced P (Outcome × Stream σ P) :=
  let record := s.buffer.prefetch.record.clear
  let answer := D.decode s.decoder record
  let (next, notices) := s.absorb answer
  { events :=
      .decode s.buffer.ahead record ::
        (answer.notices ++ .prefetched s.resource.url answer.outcome :: notices).map .notice
    value := (answer.outcome, next) }

/-- What is left of a decode call for the slot ahead that crashes: the call, and what the decoder
reported before. -/
def crash (D : Decoder σ P) (s : Stream σ P) : List (Event P) :=
  let record := s.buffer.prefetch.record.clear
  .decode s.buffer.ahead record :: (D.decode s.decoder record).notices.map .notice

/-- Gives up the record handed out last and exchanges the roles. -/
def turn (s : Stream σ P) : Stream σ P :=
  { s with buffer := (s.buffer.setExported { s.buffer.exported with filled := false }).flip }

/-- What the slot handed out holds now. -/
def result (s : Stream σ P) : Pull P :=
  if s.buffer.exported.filled then .ok s.buffer.exported.record
  else if s.resource.isLive && s.state == .active then .again
  else .endOfStream none

/-- One pull. -/
def advance (D : Decoder σ P) (s : Stream σ P) : Traced P (Pull P × Stream σ P) :=
  let s := s.turn
  if s.state = .active then
    let ⟨events, outcome, s⟩ := s.prefetch D
    if outcome = .readError then
      let e := ReaderError.readFailed s.resource.url
      { events := events ++ [.notice (.prefetchFailed e)], value := (.error e, s) }
    else { events := events, value := (s.result, s) }
  else { events := [], value := (s.result, s) }

/-- `n` pulls in a row. -/
def pulls (D : Decoder σ P) : Nat → Stream σ P → Traced P (List (Pull P) × Stream σ P)
  | 0, s => { events := [], value := ([], s) }
  | n + 1, s =>
    let ⟨events, pull, s⟩ := s.advance D
    let ⟨later, pulls, s⟩ := s.pulls D n
    { events := events ++ later, value := (pull :: pulls, s) }

end Stream
end RoutingDump
