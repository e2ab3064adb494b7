import RoutingDump.Ascii.Tally
import RoutingDump.Decoder
import RoutingDump.Medium.Basic
import RoutingDump.Text.Blank
import RoutingDump.Text.Utf8

/-!
# Ascii dumps

The decoder of line-oriented dumps reads its medium line by line. Blank lines count for nothing,
a line that is no record gives a placeholder, and lines outside the interval are passed over. The
medium stays open past the end of the file: a live dump is followed as it grows, and a line without
its line feed is kept back until the rest of it arrives.
-/

namespace RoutingDump
namespace Ascii

/-- What a decoder is asked to read. -/
structure Task where
  url : String
  interval : Option TimeInterval
  /-- Whether the filters take the resource at all. -/
  accepted : Bool
  /-- A live dump may end in a line that is still being written. -/
  live : Bool
  deriving DecidableEq, Repr

def Task.of (resource : Resource) (filters : Filters) : Task where
  url := resource.url
  interval := filters.interval
  accepted := filters.acceptsResource resource
  live := resource.isLive

/-- The state of a decoder over the medium `S`. The part of a line that was read so far is kept
with its last character in front, where the next read goes on. -/
structure Decoder (S : Type) where
  task : Task
  medium : S
  tally : Tally := {}
  kept : List Char := []

namespace Decoder

variable {S : Type}

/-- A decoder over a medium that is open already. -/
def ofMedium (medium : S) (resource : Resource) (filters : Filters) : Decoder S where
  task := .of resource filters
  medium := medium

/-- The part of a line read so far. -/
def line (d : Decoder S) : List Char := d.kept.reverse

/-- Adds the text of a read to the line. -/
def keep (d : Decoder S) (text : List Char) : Decoder S :=
  { d with kept := text.reverse ++ d.kept }

@[simp] theorem line_keep (d : Decoder S) (text : List Char) :
    (d.keep text).line = d.line ++ text := by simp [line, keep]

/-- Whether a line is whole shows at its last character. -/
theorem head?_kept (d : Decoder S) : d.kept.head? = d.line.getLast? := by simp [line]

/-- What a call comes to after one more read: an answer, or another round. -/
inductive Round (S : Type) where
  | answer (a : Decoded (Decoder S) String)
  | again (d : Decoder S)

/-- The answer of a read that failed. The body stays as it is. -/
def failed (d : Decoder S) (body : Body String) (e : IoError) : Round S :=
  .answer
    { outcome := .readError, body := body, state := d, notices := [.asciiReadError d.task.url e] }

/-- The answer at the end of the file. -/
def ended (d : Decoder S) (body : Body String) : Round S :=
  let (outcome, body) := d.tally.atEnd body
  .answer { outcome := outcome, body := body, state := d }

/-- What comes of the line once it is whole. -/
def finishLine (d : Decoder S) (body : Body String) : Round S :=
  let text := Text.trim d.line
  let d := { d with kept := [] }
  if text.isEmpty then .again d
  else
    let (result, tally) := d.tally.take d.task.interval text body
    let d := { d with tally := tally }
    match result with
    | none => .again d
    | some (outcome, body) =>
      .answer
        { outcome := outcome, body := body, state := d
          notices :=
            if outcome = .corruptedMessage then [.corruptedLine tally.linesRead d.task.url]
            else [] }

variable [Medium S]

/-- One read and what follows from it. The bytes of a read join the line if they are text;
otherwise they are lost. A read of nothing is the end of the file, unless it completes the last
line of a dump that is not live. -/
def round (d : Decoder S) (body : Body String) : Round S :=
  let read := Medium.readLine d.medium
  let d := { d with medium := read.rest }
  match read.fault, Text.Utf8.decode? read.bytes with
  | some e, none => d.failed body e
  | some e, some text => (d.keep text).failed body e
  | none, none => d.failed body .notText
  | none, some text =>
    let nothing := text.isEmpty && (d.kept.isEmpty || d.task.live)
    let d := d.keep text
    let unfinished := d.task.live && d.kept.head? != some '\n'
    if nothing || unfinished then d.ended body else d.finishLine body

/-- What rounds use up: items of the medium, and a line that was begun. -/
def fuel (d : Decoder S) : Nat :=
  (Medium.pending d.medium).length + if d.kept.isEmpty then 0 else 1

omit [Medium S] in
theorem medium_finishLine {d d' : Decoder S} {body : Body String}
    (h : d.finishLine body = .again d') : d'.medium = d.medium ∧ d'.kept = [] := by
  unfold finishLine at h
  dsimp only at h
  split at h
  · cases h; exact ⟨rfl, rfl⟩
  · split at h
    · cases h; exact ⟨rfl, rfl⟩
    · cases h

/-- A round without an answer uses something up. -/
theorem fuel_round {d d' : Decoder S} {body : Body String} (h : d.round body = .again d') :
    d'.fuel < d.fuel := by
  have hlen := Medium.length_readLine d.medium
  suffices hm : d'.kept = [] ∧ d'.medium = (Medium.readLine d.medium).rest ∧
      ((Medium.readLine d.medium).bytes ≠ [] ∨ d.kept ≠ []) by
    obtain ⟨hkept, hmedium, hused⟩ := hm
    unfold fuel
    rw [hkept, hmedium]
    cases hb : (Medium.readLine d.medium).bytes with
    | nil =>
      rcases hused with hused | hused
      · exact absurd hb hused
      · rw [hb] at hlen
        cases hl : d.kept with
        | nil => exact absurd hl hused
        | cons c cs => simp at hlen ⊢; omega
    | cons b bs =>
      rw [hb] at hlen
      simp at hlen ⊢; omega
  unfold round at h
  dsimp only at h
  split at h
  · cases h
  · cases h
  · cases h
  · rename_i text _ hdec
    split at h
    · cases h
    · rename_i hcond
      obtain ⟨h1, h2⟩ := medium_finishLine h
      refine ⟨h2, h1, ?_⟩
      cases hb : (Medium.readLine d.medium).bytes with
      | cons b bs => exact .inl (by simp)
      | nil =>
        right
        intro hl
        rw [hb, Text.Utf8.decode?_nil] at hdec
        cases hdec
        simp [hl] at hcond

/-- Rounds until there is an answer. -/
def answer (d : Decoder S) (body : Body String) : Decoded (Decoder S) String :=
  match h : d.round body with
  | .answer a => a
  | .again d' =>
    have := fuel_round h
    answer d' body
termination_by d.fuel

/-- One decode call. A resource that the filters refuse is never read. -/
def decode (d : Decoder S) (body : Body String) : Decoded (Decoder S) String :=
  if d.task.accepted then d.answer body
  else { outcome := .filteredDump, body := { body with status := .filteredSource }, state := d }

end Decoder

/-- The decoder as the stream drives it. Its records start blank. -/
def decoder (S : Type) [Medium S] : RoutingDump.Decoder (Decoder S) String where
  create := fun d => (.made .blank, d)
  decode := fun d record => d.decode record.body

end Ascii
end RoutingDump
