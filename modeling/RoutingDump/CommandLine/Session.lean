import RoutingDump.Ascii.Format
import RoutingDump.CommandLine.Arguments
import RoutingDump.Reader

/-!
# Sessions

A session pulls the records of one dump and prints them, up to a limit. It goes pull by pull, so
that whoever runs it may rest where a live dump has nothing new and look at the file again.
-/

namespace RoutingDump
namespace CommandLine

/-- What a session puts out: records, and notices for the log. -/
inductive Output where
  | record (r : Record String)
  | notice (n : Notice)

/-- The line that shows a record. -/
def recordLine (r : Record String) : String :=
  String.intercalate "|"
    [r.origin.project, r.origin.collector, r.origin.recordType.name,
      toString r.origin.dumpTime.toNat,
      toString r.body.sec.toNat ++ "." ++ String.ofList (Text.padded 6 r.body.usec.toNat),
      r.body.position.name, r.body.status.name, r.body.payload.getD ""]

/-- How a run ended. -/
inductive ExitCode where
  | success
  | failure
  | usage
  deriving DecidableEq, Repr

def ExitCode.toNat : ExitCode → Nat
  | .success => 0
  | .failure => 1
  | .usage => 2

/-- A session over dumps that come from the surroundings `ω`. -/
structure Session (ω : Type) where
  resource : Resource
  format : Format ω (Ascii.Decoder OpenFile) String
  limit : Option Nat
  reader : Reader ω (Ascii.Decoder OpenFile) String
  printed : Nat := 0

/-- How a session goes on after a step. -/
inductive Progress (ω : Type) where
  | more (s : Session ω)
  | resting (s : Session ω)
  | finished (code : ExitCode)

def Progress.exit? {ω : Type} : Progress ω → Option ExitCode
  | .finished code => some code
  | .more _ | .resting _ => none

namespace Session

variable {ω : Type}

def start (resource : Resource) (format : Format ω (Ascii.Decoder OpenFile) String)
    (limit : Option Nat) (policy : RetryPolicy) (surroundings : ω) : Session ω where
  resource := resource
  format := format
  limit := limit
  reader := .start resource policy surroundings

def notices (es : List (Event String)) : List Output := (Event.notices es).map .notice

/-- What a session puts out in front of its first step. -/
def opening (s : Session ω) : List Output := notices [s.reader.creation]

/-- Ends a session: its reader is given up. -/
def finish (s : Session ω) (outputs : List Output) (code : ExitCode) :
    List Output × Progress ω :=
  (outputs ++ notices (s.reader.drop s.format), .finished code)

/-- Whether as many records are printed as were asked for. -/
def full (s : Session ω) : Bool :=
  match s.limit with
  | none => false
  | some limit => limit ≤ s.printed

/-- One pull, unless the limit is reached. -/
def step (s : Session ω) : List Output × Progress ω :=
  if s.full then s.finish [] .success
  else
    let ⟨events, pull, reader⟩ := s.reader.next s.format
    let outputs := notices events
    let s := { s with reader := reader }
    match pull with
    | .ok record => (outputs ++ [.record record], .more { s with printed := s.printed + 1 })
    | .again => (outputs, .resting s)
    | .endOfStream (some record) =>
      s.finish (outputs ++ [.notice (.dumpUnopened s.resource.url), .record record]) .failure
    | .endOfStream none =>
      s.finish (outputs ++ [.notice (.dumpRead s.printed s.resource.url)]) .success
    | .error e => s.finish (outputs ++ [.notice (.dumpFailed e)]) .failure

/-- At most `steps` steps, up to the first rest. -/
def run : (steps : Nat) → Session ω → List Output × Progress ω
  | 0, s => ([], .more s)
  | n + 1, s =>
    match s.step with
    | (outputs, .more s) =>
      let (later, progress) := run n s
      (outputs ++ later, progress)
    | ended => ended

/-- The session after the file of its dump was found to hold `bytes`. -/
def observe (s : Session ω) (bytes : List UInt8) : Session ω :=
  let grown (d : Ascii.Decoder OpenFile) : Ascii.Decoder OpenFile :=
    match d.medium.tree.write (Ascii.pathOf s.resource.url) bytes with
    | .ok t => { d with medium := { d.medium with tree := t } }
    | .error _ => d
  { s with reader := s.reader.disturb id grown }

end Session
end CommandLine
end RoutingDump
