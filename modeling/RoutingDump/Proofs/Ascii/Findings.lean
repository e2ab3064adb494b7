import RoutingDump.Ascii.Tally
import RoutingDump.Text.Blank

/-!
# Findings

Every line of a dump that is not blank is a finding: a record, a placeholder for a line that is no
record, or a line outside the interval. The findings of a dump say which records it delivers, and
nothing but the findings counts: a tally is what they add up to.
-/

namespace RoutingDump
namespace Ascii

/-- What a line that is not blank comes to. -/
inductive Finding where
  | record (line : Line)
  | placeholder
  | outside
  deriving DecidableEq

namespace Finding

def delivers : Finding → Bool
  | .record _ | .placeholder => true
  | .outside => false

def of (interval : Option TimeInterval) (text : List Char) : Finding :=
  match parseLine? text with
  | none => .placeholder
  | some l => if (interval.map (·.contains l.sec)).getD true then .record l else .outside

/-- The finding in a line, unless it is blank. -/
def of? (interval : Option TimeInterval) (line : List Char) : Option Finding :=
  let text := Text.trim line
  if text.isEmpty then none else some (of interval text)

end Finding

def findings (interval : Option TimeInterval) (lines : List (List Char)) : List Finding :=
  lines.filterMap (Finding.of? interval)

/-- The records that findings deliver, where the first one gets the given position and a
placeholder in front of all records the given time. -/
def reportsFrom (position : Position) (time : UInt32 × UInt32) :
    List Finding → List (Body String)
  | [] => []
  | .record l :: fs =>
    { status := .valid, position := position, sec := l.sec, usec := l.usec
      payload := some (String.ofList l.body) } :: reportsFrom .middle (l.sec, l.usec) fs
  | .placeholder :: fs =>
    { status := .corruptedRecord, position := position, sec := time.1, usec := time.2 } ::
      reportsFrom .middle time fs
  | .outside :: fs => reportsFrom position time fs

/-- The records that a dump with these findings delivers. -/
def reports (fs : List Finding) : List (Body String) := reportsFrom .first (0, 0) fs

theorem findings_append (interval : Option TimeInterval) (ls ms : List (List Char)) :
    findings interval (ls ++ ms) = findings interval ls ++ findings interval ms :=
  List.filterMap_append

theorem findings_cons (interval : Option TimeInterval) (l : List Char) (ls : List (List Char)) :
    findings interval (l :: ls) = (Finding.of? interval l).toList ++ findings interval ls := by
  rw [findings, List.filterMap_cons]
  cases Finding.of? interval l <;> rfl

theorem prefix_reportsFrom_append (position : Position) (time : UInt32 × UInt32)
    (fs gs : List Finding) :
    reportsFrom position time fs <+: reportsFrom position time (fs ++ gs) := by
  induction fs generalizing position time with
  | nil => exact List.nil_prefix
  | cons f fs ih =>
    cases f with
    | record l => exact (List.cons_prefix_cons).mpr ⟨rfl, ih _ _⟩
    | placeholder => exact (List.cons_prefix_cons).mpr ⟨rfl, ih _ _⟩
    | outside => exact ih _ _

theorem prefix_reports_append (fs gs : List Finding) : reports fs <+: reports (fs ++ gs) :=
  prefix_reportsFrom_append _ _ fs gs

namespace Tally

def count (t : Tally) : Finding → Tally
  | .record l => { t.deliver with lastTime := (l.sec, l.usec) }
  | .placeholder => t.deliver
  | .outside => t.passOver

def of (fs : List Finding) : Tally := fs.foldl count {}

def report (t : Tally) : Finding → Option Result
  | .record l =>
    some (.ok,
      { status := .valid, position := t.position, sec := l.sec, usec := l.usec
        payload := some (String.ofList l.body) })
  | .placeholder =>
    some (.corruptedMessage,
      { status := .corruptedRecord, position := t.position, sec := t.lastTime.1
        usec := t.lastTime.2 })
  | .outside => none

theorem take_blank (t : Tally) (interval : Option TimeInterval) (text : List Char) :
    t.take interval text .blank =
      (t.report (Finding.of interval text), t.count (Finding.of interval text)) := by
  unfold take Finding.of
  cases parseLine? text with
  | none => rfl
  | some l =>
    dsimp only
    split <;> rfl

theorem of_concat (fs : List Finding) (f : Finding) : of (fs ++ [f]) = (of fs).count f := by
  rw [of, List.foldl_append]
  rfl

theorem report_outcome {t : Tally} {f : Finding} {r : Result} (h : t.report f = some r) :
    r.1 ≠ .readError ∧ r.1.endsDump = false := by
  cases f with
  | record l => cases h; exact ⟨nofun, rfl⟩
  | placeholder => cases h; exact ⟨nofun, rfl⟩
  | outside => cases h

theorem endsDump_atEnd (t : Tally) (body : Body String) : (t.atEnd body).1.endsDump = true := by
  unfold atEnd
  split
  · rfl
  · split <;> rfl

/-- Where the reports stand after the findings in a tally, the next one goes on. -/
theorem reportsFrom_concat (t : Tally) (fs : List Finding) (f : Finding) :
    reportsFrom t.position t.lastTime (fs ++ [f]) =
      reportsFrom t.position t.lastTime fs ++
        ((fs.foldl count t).report f).toList.map Prod.snd := by
  induction fs generalizing t with
  | nil => cases f <;> rfl
  | cons g fs ih =>
    cases g with
    | record l => exact congrArg (_ :: ·) (ih (t.count (.record l)))
    | placeholder => exact congrArg (_ :: ·) (ih (t.count .placeholder))
    | outside => exact ih (t.count .outside)

theorem reports_concat (fs : List Finding) (f : Finding) :
    reports (fs ++ [f]) = reports fs ++ ((of fs).report f).toList.map Prod.snd :=
  reportsFrom_concat {} fs f

/-! ### What a tally adds up to -/

theorem linesRead_of (fs : List Finding) : (of fs).linesRead = fs.length := by
  suffices h : ∀ t : Tally, (fs.foldl count t).linesRead = t.linesRead + fs.length by
    rw [of, h, Nat.zero_add]
  induction fs with
  | nil => intro t; rfl
  | cons f fs ih =>
    intro t
    have hcount : (t.count f).linesRead = t.linesRead + 1 := by cases f <;> rfl
    rw [List.foldl_cons, ih, hcount, List.length_cons]
    omega

theorem delivered_of (fs : List Finding) : (of fs).delivered = (reports fs).length := by
  suffices h : ∀ (t : Tally) position time, (fs.foldl count t).delivered =
      t.delivered + (reportsFrom position time fs).length by
    rw [of, h {} .first (0, 0), Nat.zero_add]
    rfl
  induction fs with
  | nil => intro t _ _; rfl
  | cons f fs ih =>
    intro t position time
    cases f with
    | record l =>
      rw [List.foldl_cons, ih _ .middle (l.sec, l.usec), reportsFrom, List.length_cons]
      show t.delivered + 1 + _ = _
      omega
    | placeholder =>
      rw [List.foldl_cons, ih _ .middle time, reportsFrom, List.length_cons]
      show t.delivered + 1 + _ = _
      omega
    | outside => exact ih _ position time

theorem skipped_of_concat (fs : List Finding) (f : Finding) :
    (of (fs ++ [f])).skipped = !f.delivers := by
  rw [of_concat]
  cases f <;> rfl

end Tally
end Ascii
end RoutingDump
