import RoutingDump.Resource
import RoutingDump.StringSet

/-!
# Filters

The user's choice of projects, collectors, record types and times. A set in which nothing was
ever put accepts everything, so the first entry narrows the choice and each further one widens it.
-/

namespace RoutingDump

/-- Seconds from `start` to `stop`, both included. Without `stop` there is no upper end. -/
structure TimeInterval where
  start : UInt32
  stop : Option UInt32
  deriving DecidableEq, Repr

def TimeInterval.contains (i : TimeInterval) (time : UInt32) : Bool :=
  decide (i.start ≤ time) &&
    match i.stop with
    | none => true
    | some stop => decide (time ≤ stop)

/-- What was chosen so far. -/
structure Filters where
  projects : StringSet := ∅
  collectors : StringSet := ∅
  recordTypes : List RecordType := []
  interval : Option TimeInterval := none

namespace Filters

def addProject (f : Filters) (project : String) : Filters :=
  { f with projects := (f.projects.insert project).2 }

def addCollector (f : Filters) (collector : String) : Filters :=
  { f with collectors := (f.collectors.insert collector).2 }

def addRecordType (f : Filters) (t : RecordType) : Filters :=
  { f with recordTypes := if f.recordTypes.contains t then f.recordTypes else t :: f.recordTypes }

/-- The interval set last is the one that counts. -/
def setInterval (f : Filters) (start : UInt32) (stop : Option UInt32) : Filters :=
  { f with interval := some ⟨start, stop⟩ }

/-- One more entry of the choice. -/
inductive Edit where
  | project (name : String)
  | collector (name : String)
  | recordType (t : RecordType)
  | interval (start : UInt32) (stop : Option UInt32)
  deriving DecidableEq, Repr

def edit (f : Filters) : Edit → Filters
  | .project name => f.addProject name
  | .collector name => f.addCollector name
  | .recordType t => f.addRecordType t
  | .interval start stop => f.setInterval start stop

/-- The filters that a sequence of edits builds up from nothing. -/
def ofEdits (edits : List Edit) : Filters := edits.foldl edit {}

/-- Project, collector and type all pass. -/
def acceptsResource (f : Filters) (r : Resource) : Bool :=
  (f.projects.isEmpty || f.projects.contains r.project) &&
    (f.collectors.isEmpty || f.collectors.contains r.collector) &&
    (f.recordTypes.isEmpty || f.recordTypes.contains r.recordType)

def acceptsTime (f : Filters) (time : UInt32) : Bool :=
  match f.interval with
  | none => true
  | some interval => interval.contains time

end Filters
end RoutingDump
