import RoutingDump.Reader

/-!
# Calls of a reader

All that a caller can ask of a reader, as data, so that whole sequences of calls can be run and
compared.
-/

namespace RoutingDump

/-- A call of a reader. -/
inductive ReaderCall where
  | openWait
  | nextTime
  | next
  | resource
  deriving DecidableEq, Repr

/-- What a call answers. -/
inductive ReaderAnswer (P : Type) where
  | opened (result : Except ReaderError Unit)
  | time (result : Except ReaderError (Option UInt32))
  | pulled (pull : Pull P)
  | resource (r : Resource)

def ReaderAnswer.pull? {P : Type} : ReaderAnswer P → Option (Pull P)
  | .pulled pull => some pull
  | _ => none

namespace Reader

variable {ω σ P : Type}

/-- One call. -/
def call (F : Format ω σ P) (r : Reader ω σ P) :
    ReaderCall → Traced P (ReaderAnswer P × Reader ω σ P)
  | .openWait =>
    let ⟨events, result, r⟩ := r.openWait F
    { events := events, value := (.opened result, r) }
  | .nextTime =>
    let ⟨events, result, r⟩ := r.nextTime F
    { events := events, value := (.time result, r) }
  | .next =>
    let ⟨events, pull, r⟩ := r.next F
    { events := events, value := (.pulled pull, r) }
  | .resource => { events := [], value := (.resource r.resource, r) }

/-- Calls one after the other. -/
def calls (F : Format ω σ P) (r : Reader ω σ P) :
    List ReaderCall → Traced P (List (ReaderAnswer P) × Reader ω σ P)
  | [] => { events := [], value := ([], r) }
  | c :: cs =>
    let ⟨events, answer, r⟩ := r.call F c
    let ⟨later, answers, r⟩ := r.calls F cs
    { events := events ++ later, value := (answer :: answers, r) }

end Reader
end RoutingDump
