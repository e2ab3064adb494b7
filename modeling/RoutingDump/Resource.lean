import RoutingDump.Text.Lowercase

/-!
# Resources

A resource is one dump to read: where it lies, who published it, what kind of records it holds
and whether it ever ends.
-/

namespace RoutingDump

/-- The two kinds of dump: snapshots of a routing table, or update messages. -/
inductive RecordType where
  | ribs
  | updates
  deriving DecidableEq, Repr, Inhabited

namespace RecordType

def name : RecordType → String
  | .ribs => "ribs"
  | .updates => "updates"

/-- A name that no record type has, in lower case. -/
structure Unknown where
  lowered : String
  deriving DecidableEq, Repr

def Unknown.message (u : Unknown) : String := s!"unknown record type '{u.lowered}'"

/-- Reads a name without regard to case. The singular stands for the plural. -/
def ofName (s : String) : Except Unknown RecordType :=
  let lowered := Text.lowercaseString s
  if lowered = "ribs" ∨ lowered = "rib" then .ok .ribs
  else if lowered = "updates" ∨ lowered = "update" then .ok .updates
  else .error ⟨lowered⟩

end RecordType

/-- How long a resource lasts: for so many seconds, or as a live feed without an end. -/
inductive Extent where
  | finite (secs : UInt32)
  | forever
  deriving DecidableEq, Repr

/-- What to open, with the data that is stamped on every record read from it. -/
structure Resource where
  url : String
  project : String
  collector : String
  recordType : RecordType
  initialTime : UInt32
  extent : Extent := .finite 0
  deriving DecidableEq, Repr

namespace Resource

def withDuration (r : Resource) (secs : UInt32) : Resource := { r with extent := .finite secs }

def asLive (r : Resource) : Resource := { r with extent := .forever }

def isLive (r : Resource) : Bool := r.extent == .forever

end Resource
end RoutingDump
