import RoutingDump.Ascii.Line
import RoutingDump.Filters
import RoutingDump.Outcome
import RoutingDump.Record

/-!
# The tally of a dump

What the lines of an ascii dump come to does not depend on how they are read. A decoder keeps a
tally of the lines so far, and the tally says what the next line amounts to and how the dump ends.
-/

namespace RoutingDump
namespace Ascii

/-- What is kept of the lines read so far. -/
structure Tally where
  /-- Lines read, blank ones not counted. -/
  linesRead : Nat := 0
  /-- Records delivered, placeholders counted. -/
  delivered : Nat := 0
  /-- Whether a line was passed over since the last delivery. -/
  skipped : Bool := false
  /-- The time of the last valid record. -/
  lastTime : UInt32 × UInt32 := (0, 0)
  deriving DecidableEq, Repr

/-- What a call comes to: an outcome and the body that goes with it. -/
abbrev Result := Outcome × Body String

namespace Tally

/-- The position of the next record delivered. -/
def position (t : Tally) : Position := if t.delivered = 0 then .first else .middle

/-- The tally with one more line delivered. -/
def deliver (t : Tally) : Tally :=
  { t with linesRead := t.linesRead + 1, delivered := t.delivered + 1, skipped := false }

/-- The tally with one more line passed over. -/
def passOver (t : Tally) : Tally := { t with linesRead := t.linesRead + 1, skipped := true }

/-- What a line that is not blank comes to: a record, a placeholder for a line that is no record,
or nothing if the line lies outside the interval. -/
def take (t : Tally) (interval : Option TimeInterval) (text : List Char) (body : Body String) :
    Option Result × Tally :=
  match parseLine? text with
  | none =>
    (some (.corruptedMessage,
        { body with
          status := .corruptedRecord, position := t.position
          sec := t.lastTime.1, usec := t.lastTime.2 }),
      t.deliver)
  | some l =>
    if (interval.map (·.contains l.sec)).getD true then
      (some (.ok,
          { status := .valid, position := t.position, sec := l.sec, usec := l.usec,
            payload := some (String.ofList l.body) }),
        { t.deliver with lastTime := (l.sec, l.usec) })
    else (none, t.passOver)

/-- The result at the end of the file. A dump whose last lines were passed over does not end at
the last record delivered. -/
def atEnd (t : Tally) (body : Body String) : Result :=
  if t.linesRead = 0 then (.emptyDump, { body with position := .last, status := .emptySource })
  else if t.delivered = 0 then
    (.filteredDump, { body with position := .last, status := .filteredSource })
  else
    (.endOfDump,
      { body with
        position := if t.skipped then .middle else .last
        sec := t.lastTime.1
        usec := t.lastTime.2 })

end Tally
end Ascii
end RoutingDump
