import RoutingDump.Resource

/-!
# Records

A record is a container that is filled again and again. Its origin is stamped once from the
resource; its body changes with every record decoded into it. The two halves are separate types,
so that what may write a body cannot touch the origin.
-/

namespace RoutingDump

/-- What became of the source or of the single record. -/
inductive RecordStatus where
  | valid
  | filteredSource
  | emptySource
  | corruptedSource
  | corruptedRecord
  | unsupportedRecord
  | outsideTimeInterval
  deriving DecidableEq, Repr, Inhabited

def RecordStatus.name : RecordStatus → String
  | .valid => "Valid"
  | .filteredSource => "FilteredSource"
  | .emptySource => "EmptySource"
  | .corruptedSource => "CorruptedSource"
  | .corruptedRecord => "CorruptedRecord"
  | .unsupportedRecord => "UnsupportedRecord"
  | .outsideTimeInterval => "OutsideTimeInterval"

/-- Where a record lies in its dump. -/
inductive Position where
  | first
  | middle
  | last
  deriving DecidableEq, Repr, Inhabited

def Position.name : Position → String
  | .first => "Start"
  | .middle => "Middle"
  | .last => "End"

/-- The part of a record that each decode writes anew. -/
structure Body (P : Type) where
  status : RecordStatus := .valid
  position : Position := .first
  sec : UInt32 := 0
  usec : UInt32 := 0
  payload : Option P := none
  deriving DecidableEq, Repr

/-- A body in which nothing has been written. -/
def Body.blank {P : Type} : Body P := {}

/-- The part of a record that comes from its resource. -/
structure Origin where
  project : String := ""
  collector : String := ""
  recordType : RecordType := .updates
  dumpTime : UInt32 := 0
  deriving DecidableEq, Repr

/-- A container for one record: where it comes from and what was decoded into it. -/
structure Record (P : Type) where
  origin : Origin := {}
  body : Body P := .blank
  deriving DecidableEq, Repr

/-- The longest name of a project or collector on a record, in bytes. -/
def maxNameBytes : Nat := 31

/-- The characters in front that together fit into `budget` bytes. -/
def takeBytes (budget : Nat) : List Char → List Char
  | [] => []
  | c :: cs => if c.utf8Size ≤ budget then c :: takeBytes (budget - c.utf8Size) cs else []

/-- A name cut to the longest name a record holds. No character is split. -/
def truncateName (name : String) : String := String.ofList (takeBytes maxNameBytes name.toList)

/-- The origin that a resource stamps on its records. -/
def Resource.origin (r : Resource) : Origin where
  project := truncateName r.project
  collector := truncateName r.collector
  recordType := r.recordType
  dumpTime := r.initialTime

namespace Record

variable {P : Type}

/-- A record with no origin and a blank body. -/
def empty : Record P := {}

/-- The record with its origin taken from `resource`. -/
def stamp (r : Record P) (resource : Resource) : Record P := { r with origin := resource.origin }

/-- The record ready for the next decode. -/
def clear (r : Record P) : Record P := { r with body := .blank }

def setPayload (r : Record P) (payload : P) : Record P :=
  { r with body := { r.body with payload := some payload } }

/-- The payload, and the record without it. -/
def takePayload (r : Record P) : Option P × Record P :=
  (r.body.payload, { r with body := { r.body with payload := none } })

/-- The record that stands for a dump that could not be opened. -/
def ofFailedOpen (resource : Resource) : Record P :=
  { origin := resource.origin, body := { status := .corruptedSource } }

@[simp] theorem clear_body (r : Record P) : r.clear.body = .blank := rfl

@[simp] theorem clear_origin (r : Record P) : r.clear.origin = r.origin := rfl

@[simp] theorem stamp_origin (r : Record P) (resource : Resource) :
    (r.stamp resource).origin = resource.origin := rfl

end Record
end RoutingDump
