import RoutingDump.Decoder

/-!
# Scripted decoders

A decoder that replays a script stands in for a real one where only the order of outcomes
matters: what is decoded, when a record cannot be made, which attempt to open fails. The writes of
a step are listed field by field, so a step may also leave things as they are.
-/

namespace RoutingDump

/-- Writes to some fields of a body. The payload is taken out last. -/
structure BodyEdit (P : Type) where
  status : Option RecordStatus := none
  position : Option Position := none
  sec : Option UInt32 := none
  usec : Option UInt32 := none
  payload : Option P := none
  takesPayload : Bool := false

def BodyEdit.apply {P : Type} (e : BodyEdit P) (b : Body P) : Body P where
  status := e.status.getD b.status
  position := e.position.getD b.position
  sec := e.sec.getD b.sec
  usec := e.usec.getD b.usec
  payload := if e.takesPayload then none else e.payload <|> b.payload

/-- One decode call of a script. -/
structure ScriptStep (P : Type) where
  outcome : Outcome
  edit : BodyEdit P := {}

namespace ScriptStep

/-- The status that goes with an outcome, where one does. -/
def statusOf : Outcome → Option RecordStatus
  | .ok => some .valid
  | .corruptedMessage => some .corruptedRecord
  | .unsupportedMessage => some .unsupportedRecord
  | .emptyDump => some .emptySource
  | .filteredDump => some .filteredSource
  | .corruptedDump => some .corruptedSource
  | .endOfDump | .readError => none

/-- A step with an outcome at a time and a position. The payload of a record is its time. -/
def timed (outcome : Outcome) (time : UInt32) (position : Position) : ScriptStep UInt32 where
  outcome := outcome
  edit :=
    { status := statusOf outcome
      position := some position
      sec := some time
      payload := if outcome = .ok then some time else none }

/-- The true end of a dump. -/
def atEnd : ScriptStep UInt32 := timed .endOfDump 0 .last

end ScriptStep

/-- The state of a scripted decoder. When the steps to come are used up it starts over, if it
cycles, and otherwise repeats `afterwards`. Records are made as `allocations` says, then blank. -/
structure Script (P : Type) where
  steps : List (ScriptStep P)
  toCome : List (ScriptStep P)
  cycles : Bool := false
  afterwards : ScriptStep P
  allocations : List (Except String (BodyEdit P)) := []

namespace Script

variable {P : Type}

def start (steps : List (ScriptStep P)) (cycles : Bool) (afterwards : ScriptStep P)
    (allocations : List (Except String (BodyEdit P))) : Script P where
  steps := steps
  toCome := steps
  cycles := cycles
  afterwards := afterwards
  allocations := allocations

/-- The next step, and the script after it. -/
def pop (s : Script P) : ScriptStep P × Script P :=
  let toCome := if s.toCome.isEmpty && s.cycles then s.steps else s.toCome
  match toCome with
  | [] => (s.afterwards, { s with toCome := [] })
  | step :: rest => (step, { s with toCome := rest })

def create (s : Script P) : Creation (Body P) × Script P :=
  match s.allocations with
  | [] => (.made .blank, s)
  | .error reason :: rest => (.failed (.recordAllocation reason), { s with allocations := rest })
  | .ok edit :: rest => (.made (edit.apply .blank), { s with allocations := rest })

def decode (s : Script P) (record : Record P) : Decoded (Script P) P :=
  let (step, rest) := s.pop
  { outcome := step.outcome, body := step.edit.apply record.body, state := rest }

def decoder : Decoder (Script P) P where
  create := create
  decode := decode

/-- The format whose decoders replay the script that the surroundings hold. -/
def format : Format (Script P) (Script P) P where
  toDecoder := decoder
  attempt := fun s => { attempt := .opened s, surroundings := s }

end Script

end RoutingDump
