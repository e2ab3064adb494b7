import RoutingDump.Text.Numeral

/-!
# Lines of an ascii dump

A line holds a time and a body, `sec|body` or `sec.usec|body`. The first bar ends the time, so the
body may hold bars and dots of its own. Seconds fit into a word and microseconds are below one
million. They are the number after the dot as it stands: `10.5` is five microseconds past ten.
-/

namespace RoutingDump
namespace Ascii

/-- A line read: time and body. -/
structure Line where
  sec : UInt32
  usec : UInt32
  body : List Char
  deriving DecidableEq, Repr

/-- What stands before and after the first `mark`. -/
def splitFirst (mark : Char) : List Char → Option (List Char × List Char)
  | [] => none
  | c :: cs =>
    if c = mark then some ([], cs)
    else
      match splitFirst mark cs with
      | none => none
      | some (front, back) => some (c :: front, back)

/-- Microseconds stay below this. -/
def usecLimit : Nat := 1000000

/-- The time in front of the bar. -/
def parseTime? (cs : List Char) : Option (UInt32 × UInt32) :=
  match splitFirst '.' cs with
  | none =>
    match Text.word32? cs with
    | none => none
    | some sec => some (sec, 0)
  | some (front, back) =>
    match Text.word32? front, Text.word32? back with
    | some sec, some usec => if usec.toNat < usecLimit then some (sec, usec) else none
    | _, _ => none

def parseLine? (cs : List Char) : Option Line :=
  match splitFirst '|' cs with
  | none => none
  | some (time, body) =>
    match parseTime? time with
    | none => none
    | some (sec, usec) => some ⟨sec, usec, body⟩

/-- A line with its microseconds written in six digits. -/
def Line.write (l : Line) : List Char :=
  Text.decimal l.sec.toNat ++ '.' :: Text.padded 6 l.usec.toNat ++ '|' :: l.body

end Ascii
end RoutingDump
