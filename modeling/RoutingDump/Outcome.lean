/-!
# Outcomes of one decode

A decoder says of each call what it found. Four outcomes end a dump, two say that one message was
bad, one is a record and one a failure of the medium.
-/

namespace RoutingDump

/-- What one decode call found. -/
inductive Outcome where
  | ok
  | readError
  | endOfDump
  | filteredDump
  | emptyDump
  | corruptedDump
  | corruptedMessage
  | unsupportedMessage
  deriving DecidableEq, Repr, Inhabited

namespace Outcome

def name : Outcome → String
  | .ok => "Ok"
  | .readError => "ReadError"
  | .endOfDump => "EndOfDump"
  | .filteredDump => "FilteredDump"
  | .emptyDump => "EmptyDump"
  | .corruptedDump => "CorruptedDump"
  | .corruptedMessage => "CorruptedMsg"
  | .unsupportedMessage => "UnsupportedMsg"

/-- Ends a finite dump. In a live one it means that nothing is there at the moment. -/
def endsDump : Outcome → Bool
  | .endOfDump | .filteredDump | .emptyDump | .corruptedDump => true
  | _ => false

/-- Concerns a single message. The stream goes on. -/
def isMessageError : Outcome → Bool
  | .corruptedMessage | .unsupportedMessage => true
  | _ => false

end Outcome
end RoutingDump
