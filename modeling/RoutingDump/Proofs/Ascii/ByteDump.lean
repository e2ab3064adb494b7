import RoutingDump.Proofs.Ascii.FiniteDump
import RoutingDump.Proofs.Ascii.Interruption
import RoutingDump.Proofs.Text.Exact

/-!
# Finite dumps of bytes

Not every dump is text. The bytes of a finite dump fall into segments between line feeds, and each
segment comes to one call or to none, whatever the others hold: a segment that is no text fails a
call and is gone. `callsFrom` lists the calls from the front. After them every call answers alike,
and what it answers depends on the findings in all of the segments.
-/

namespace RoutingDump

/-- A medium with the given bytes still to come and no fault after them. -/
structure Medium.Serves {S : Type} [Medium S] (s : S) (bytes : List UInt8) : Prop where
  pending_eq : pending s = Item.ofBytes bytes
  ending_eq : ending s = none

namespace Ascii

open Text (Utf8.decode? Utf8.encode)

/-- The bytes between line feeds. Behind the last one nothing counts unless it is more than
nothing. -/
def segments : List UInt8 → List (List UInt8)
  | [] => []
  | b :: bs =>
    if b = Medium.lineFeed then [] :: segments bs
    else
      match segments bs with
      | [] => [[b]]
      | segment :: rest => (b :: segment) :: rest

theorem segments_line {l : List UInt8} (hl : Medium.lineFeed ∉ l) (r : List UInt8) :
    segments (l ++ Medium.lineFeed :: r) = l :: segments r := by
  induction l with
  | nil => rfl
  | cons b l ih =>
    have hb : b ≠ Medium.lineFeed := fun heq => hl (heq ▸ List.mem_cons_self)
    have hlater := ih fun hmem => hl (List.mem_cons_of_mem b hmem)
    rw [List.cons_append, segments, if_neg hb, hlater]

theorem segments_of_not_mem {l : List UInt8} (hl : Medium.lineFeed ∉ l) (hsome : l ≠ []) :
    segments l = [l] := by
  induction l with
  | nil => exact absurd rfl hsome
  | cons b l ih =>
    have hb : b ≠ Medium.lineFeed := fun heq => hl (heq ▸ List.mem_cons_self)
    rw [segments, if_neg hb]
    by_cases hnil : l = []
    · rw [hnil]
      rfl
    · rw [ih (fun hmem => hl (List.mem_cons_of_mem b hmem)) hnil]

/-- What a segment holds, if it is text: a finding, or nothing but blanks. -/
def readSegment? (interval : Option TimeInterval) (segment : List UInt8) :
    Option (Option Finding) :=
  (Utf8.decode? segment).map (Finding.of? interval)

/-- The calls that segments come to, where the next record gets the given position and a
placeholder the given time. -/
def callsFrom (interval : Option TimeInterval) (position : Position) (time : UInt32 × UInt32) :
    List (List UInt8) → List Result
  | [] => []
  | segment :: rest =>
    match readSegment? interval segment with
    | none => (.readError, .blank) :: callsFrom interval position time rest
    | some none | some (some .outside) => callsFrom interval position time rest
    | some (some .placeholder) =>
      (.corruptedMessage,
        { status := .corruptedRecord, position := position, sec := time.1, usec := time.2 }) ::
          callsFrom interval .middle time rest
    | some (some (.record l)) =>
      (.ok,
        { status := .valid, position := position, sec := l.sec, usec := l.usec
          payload := some (String.ofList l.body) }) ::
          callsFrom interval .middle (l.sec, l.usec) rest

/-- The findings in the segments that are text. -/
def segmentFindings (interval : Option TimeInterval) (segments : List (List UInt8)) :
    List Finding :=
  segments.filterMap fun segment => (readSegment? interval segment).join

theorem segmentFindings_cons (interval : Option TimeInterval) (segment : List UInt8)
    (rest : List (List UInt8)) :
    segmentFindings interval (segment :: rest) =
      (readSegment? interval segment).join.toList ++ segmentFindings interval rest := by
  rw [segmentFindings, List.filterMap_cons]
  cases (readSegment? interval segment).join <;> rfl

/-- The time of the last record, or zero. -/
def lastRecordTime (fs : List Finding) : UInt32 × UInt32 :=
  let times := fs.filterMap fun
    | .record l => some (l.sec, l.usec)
    | .placeholder | .outside => none
  times.getLast?.getD (0, 0)

/-- What every call comes to behind a dump with the given findings. -/
def dumpEnd (fs : List Finding) : Result :=
  if fs = [] then (.emptyDump, { status := .emptySource, position := .last })
  else if fs.all (· = .outside) then
    (.filteredDump, { status := .filteredSource, position := .last })
  else
    (.endOfDump,
      { position := if fs.getLast? = some .outside then .middle else .last
        sec := (lastRecordTime fs).1
        usec := (lastRecordTime fs).2 })

namespace Tally

theorem lastTime_of (fs : List Finding) : (of fs).lastTime = lastRecordTime fs := by
  induction fs using List.reverseRecOn with
  | nil => rfl
  | append_singleton fs f ih =>
    rw [of_concat, lastRecordTime, List.filterMap_append]
    cases f with
    | record l => simp [count]
    | placeholder => simpa [count, deliver, lastRecordTime] using ih
    | outside => simpa [count, passOver, lastRecordTime] using ih

theorem reports_eq_nil_iff (fs : List Finding) : reports fs = [] ↔ ∀ f ∈ fs, f = .outside := by
  unfold reports
  generalize Position.first = position
  generalize ((0, 0) : UInt32 × UInt32) = time
  induction fs with
  | nil => simp [reportsFrom]
  | cons f fs ih => cases f <;> simp [reportsFrom, ih]

theorem atEnd_eq (fs : List Finding) : (of fs).atEnd .blank = dumpEnd fs := by
  by_cases hfs : fs = []
  · subst hfs
    rfl
  · have hall : fs.all (· = .outside) = true ↔ reports fs = [] := by
      rw [reports_eq_nil_iff]
      simp
    rw [dumpEnd, if_neg hfs]
    by_cases hnone : reports fs = []
    · rw [if_pos (hall.mpr hnone), atEnd_of_reports_nil hfs hnone]
    · obtain ⟨front, f, rfl⟩ := (List.eq_nil_or_concat fs).resolve_left hfs
      rw [List.concat_eq_append] at hfs hall hnone ⊢
      have hlines : (of (front ++ [f])).linesRead ≠ 0 := by
        rw [linesRead_of]
        exact mt List.length_eq_zero_iff.mp hfs
      have hdelivered : (of (front ++ [f])).delivered ≠ 0 := by
        rw [delivered_of]
        exact mt List.length_eq_zero_iff.mp hnone
      rw [if_neg (mt hall.mp hnone), atEnd, if_neg hlines, if_neg hdelivered, skipped_of_concat,
        List.getLast?_concat, lastTime_of]
      cases f <;> rfl

theorem callsFrom_cons {interval : Option TimeInterval} {segment : List UInt8} {f : Finding}
    (h : readSegment? interval segment = some (some f)) (t : Tally) (rest : List (List UInt8)) :
    callsFrom interval t.position t.lastTime (segment :: rest) =
      (t.report f).toList ++ callsFrom interval (t.count f).position (t.count f).lastTime rest := by
  rw [callsFrom, h]
  cases f <;> rfl

end Tally

section Decoding

variable {S : Type} [Medium S] {task : Task} {d : Decoder S} {fs : List Finding}
  {bytes : List UInt8}

/-- The decoder stands between two segments. It has taken in the findings `fs`, and `bytes` are
still to come. -/
structure Faces (task : Task) (d : Decoder S) (fs : List Finding) (bytes : List UInt8) : Prop where
  task_eq : d.task = task
  tally_eq : d.tally = .of fs
  kept_eq : d.kept = []
  serves : Medium.Serves d.medium bytes

theorem faces_ofMedium {s : S} (h : Medium.Serves s bytes) (resource : Resource)
    (filters : Filters) :
    Faces (.of resource filters) (.ofMedium s resource filters) [] bytes :=
  ⟨rfl, rfl, rfl, h⟩

/-- One read takes the next segment off, with the line feed behind it if there is one. -/
inductive Takes (task : Task) (d : Decoder S) (fs : List Finding) (bytes : List UInt8) : Prop
  | exhausted {next : Decoder S} (hnone : bytes = []) (hround : d.round .blank = next.ended .blank)
    (hnext : Faces task next fs [])
  | lost {next : Decoder S} {segment rest : List UInt8}
    (hsegments : segments bytes = segment :: segments rest)
    (hsegment : Utf8.decode? segment = none)
    (hround : d.round .blank = next.failed .blank .notText) (hnext : Faces task next fs rest)
  | line {next : Decoder S} {segment rest : List UInt8} {text : List Char}
    (hsegments : segments bytes = segment :: segments rest)
    (hsegment : Utf8.decode? segment = some text)
    (hround : d.round .blank = next.finishLine .blank)
    (hline : Text.trim next.line = Text.trim text)
    (hnext : Faces task { next with kept := [] } fs rest)

namespace Faces

theorem line_eq (h : Faces task d fs bytes) : d.line = [] := by rw [Decoder.line, h.kept_eq]; rfl

theorem takes_line (h : Faces task d fs bytes) {l r : List UInt8} (hl : Medium.lineFeed ∉ l)
    (hbytes : bytes = l ++ Medium.lineFeed :: r) : Takes task d fs bytes := by
  have hpending := h.serves.pending_eq
  rw [hbytes, Item.ofBytes, List.map_append] at hpending
  obtain ⟨rest, hread, hrest, hending⟩ := Medium.readLine_bytes_lineFeed hl hpending
  have hserves : Medium.Serves rest r := ⟨hrest, hending.trans h.serves.ending_eq⟩
  have hsegments : segments bytes = l :: segments r := by rw [hbytes, segments_line hl]
  cases hsegment : Utf8.decode? l with
  | none =>
    have hwhole : Utf8.decode? (l ++ [Medium.lineFeed]) = none := by
      rw [Text.Utf8.decode?_lineFeed, hsegment]
      rfl
    exact .lost hsegments hsegment (Decoder.round_of_cut hread hwhole)
      ⟨h.task_eq, h.tally_eq, h.kept_eq, hserves⟩
  | some text =>
    have hwhole : l ++ [Medium.lineFeed] = Utf8.encode (text ++ ['\n']) := by
      rw [Text.Utf8.encode_append, ← Text.Utf8.decode?_eq_some_iff.mp hsegment]
      rfl
    rw [hwhole] at hread
    obtain ⟨next, hround, hline, htask, htally, rfl⟩ := Decoder.round_of_line hread .blank
    rw [h.line_eq, List.nil_append] at hline
    refine .line hsegments hsegment hround ?_
      ⟨htask.trans h.task_eq, htally.trans h.tally_eq, rfl, hserves⟩
    rw [hline, Text.trim_lineFeed]

theorem takes_rest (h : Faces task d fs bytes) (hfinite : task.live = false)
    (hbytes : Medium.lineFeed ∉ bytes) : Takes task d fs bytes := by
  obtain ⟨rest, hread, hrest, hending⟩ := Medium.readLine_bytes_end hbytes h.serves.pending_eq
  rw [h.serves.ending_eq] at hread hending
  have hserves : Medium.Serves rest [] := ⟨hrest, hending⟩
  cases hsegment : Utf8.decode? bytes with
  | none =>
    have hsome : bytes ≠ [] := by
      rintro rfl
      cases hsegment
    exact .lost (segments_of_not_mem hbytes hsome) hsegment (Decoder.round_of_cut hread hsegment)
      ⟨h.task_eq, h.tally_eq, h.kept_eq, hserves⟩
  | some text =>
    have hencode := Text.Utf8.decode?_eq_some_iff.mp hsegment
    have htext : '\n' ∉ text := by
      intro hmem
      rw [hencode] at hbytes
      exact hbytes (List.mem_flatMap.mpr ⟨'\n', hmem, by decide⟩)
    have hbegun : '\n' ∉ d.line := by
      rw [h.line_eq]
      exact List.not_mem_nil
    rw [hencode] at hread
    obtain ⟨next, hround, hline, -, htask, htally, rfl⟩ :=
      Decoder.round_of_pause hbegun htext hread .blank
    rw [h.line_eq, List.nil_append] at hline
    rw [h.task_eq, hfinite, Bool.false_or, hline] at hround
    by_cases hnone : text = []
    · rw [if_pos (by rw [hnone]; rfl)] at hround
      have hkept : next.kept = [] := by
        rw [← List.reverse_eq_nil_iff]
        exact hline.trans hnone
      refine .exhausted ?_ hround ⟨htask.trans h.task_eq, htally.trans h.tally_eq, hkept, hserves⟩
      rw [hencode, hnone]
      rfl
    · have hsome : bytes ≠ [] := by
        rintro rfl
        cases hsegment
        exact hnone rfl
      rw [if_neg (by simpa using hnone)] at hround
      refine .line (segments_of_not_mem hbytes hsome) hsegment hround (by rw [hline])
        ⟨htask.trans h.task_eq, htally.trans h.tally_eq, rfl, hserves⟩

theorem takes (h : Faces task d fs bytes) (hfinite : task.live = false) :
    Takes task d fs bytes := by
  by_cases hfeed : Medium.lineFeed ∈ bytes
  · obtain ⟨l, r, hbytes, hl⟩ := List.eq_append_cons_of_mem hfeed
    exact h.takes_line hl hbytes
  · exact h.takes_rest hfinite hfeed

theorem count {next : Decoder S} (h : Faces task { d with kept := [] } fs bytes) (f : Finding)
    (hnext : next = { d with kept := [], tally := d.tally.count f }) :
    Faces task next (fs ++ [f]) bytes := by
  subst hnext
  have htally : d.tally = .of fs := h.tally_eq
  refine ⟨h.task_eq, ?_, rfl, h.serves⟩
  rw [Tally.of_concat, ← htally]

end Faces

/-- The findings of the whole dump, of which `fs` are taken in and the others are in `bytes`. -/
def total (task : Task) (fs : List Finding) (bytes : List UInt8) : List Finding :=
  fs ++ segmentFindings task.interval (segments bytes)

/-- The calls that `bytes` come to behind the findings `fs`. -/
def upcoming (task : Task) (fs : List Finding) (bytes : List UInt8) : List Result :=
  callsFrom task.interval (Tally.of fs).position (Tally.of fs).lastTime (segments bytes)

/-- The decoder of a dump with the findings `all` that still comes to the given calls. -/
structure Ahead (task : Task) (d : Decoder S) (all : List Finding) (calls : List Result) :
    Prop where
  faces : ∃ fs bytes, Faces task d fs bytes ∧ total task fs bytes = all ∧
    upcoming task fs bytes = calls

/-- An answer is the next call in the list. -/
structure Next (task : Task) (a : Decoded (Decoder S) String) (all : List Finding)
    (calls : List Result) : Prop where
  result_eq : (a.outcome, a.body) = calls.head?.getD (dumpEnd all)
  ahead : Ahead task a.state all calls.tail

namespace Faces

variable {next : Decoder S} {segment rest : List UInt8} {text : List Char}

theorem next_of_exhausted (hround : d.round .blank = next.ended .blank)
    (hnext : Faces task next fs []) :
    Next task (d.answer .blank) (total task fs []) (upcoming task fs []) := by
  have htotal : total task fs [] = fs := List.append_nil fs
  rw [Decoder.ended_eq] at hround
  rw [Decoder.answer_of_answer hround, hnext.tally_eq, Tally.atEnd_eq]
  refine ⟨?_, ⟨fs, [], hnext, rfl, rfl⟩⟩
  rw [htotal]
  rfl

theorem next_of_lost (hsegments : segments bytes = segment :: segments rest)
    (hsegment : Utf8.decode? segment = none)
    (hround : d.round .blank = next.failed .blank .notText) (hnext : Faces task next fs rest) :
    Next task (d.answer .blank) (total task fs bytes) (upcoming task fs bytes) := by
  have hread : readSegment? task.interval segment = none := by
    rw [readSegment?, hsegment]
    rfl
  rw [Decoder.answer_of_answer hround, total, upcoming, hsegments, segmentFindings_cons, callsFrom,
    hread]
  exact ⟨rfl, ⟨fs, rest, hnext, rfl, rfl⟩⟩

/-- A line of text ends the call, or the call goes on with less in front of it. -/
theorem next_of_line (hsegments : segments bytes = segment :: segments rest)
    (hsegment : Utf8.decode? segment = some text)
    (hround : d.round .blank = next.finishLine .blank)
    (hline : Text.trim next.line = Text.trim text)
    (hnext : Faces task { next with kept := [] } fs rest) :
    Next task (d.answer .blank) (total task fs bytes) (upcoming task fs bytes) ∨
      ∃ later gs, d.answer .blank = later.answer .blank ∧ Faces task later gs rest ∧
        total task gs rest = total task fs bytes ∧
        upcoming task gs rest = upcoming task fs bytes := by
  have htask : next.task = task := hnext.task_eq
  have htally : next.tally = .of fs := hnext.tally_eq
  have hread : readSegment? task.interval segment =
      some (Finding.of? next.task.interval next.line) := by
    rw [readSegment?, hsegment, htask, Option.map_some, Finding.of?, Finding.of?, hline]
  cases hfinding : Finding.of? next.task.interval next.line with
  | none =>
    rw [hfinding] at hread
    rw [Decoder.finishLine_blank hfinding] at hround
    refine .inr ⟨_, fs, Decoder.answer_of_again hround, hnext, ?_, ?_⟩
    · rw [total, total, hsegments, segmentFindings_cons, hread]
      rfl
    · rw [upcoming, upcoming, hsegments, callsFrom, hread]
  | some f =>
    rw [hfinding] at hread
    rw [Decoder.finishLine_counted hfinding] at hround
    have hcount := hnext.count f rfl
    have htotal : total task (fs ++ [f]) rest = total task fs bytes := by
      rw [total, total, hsegments, segmentFindings_cons, hread, List.append_assoc]
      rfl
    have hupcoming : upcoming task fs bytes =
        (next.tally.report f).toList ++ upcoming task (fs ++ [f]) rest := by
      rw [upcoming, upcoming, hsegments, Tally.callsFrom_cons hread, Tally.of_concat, htally]
    cases hreport : next.tally.report f with
    | none =>
      rw [hreport] at hround hupcoming
      exact .inr ⟨_, _, Decoder.answer_of_again hround, hcount, htotal, hupcoming.symm⟩
    | some result =>
      rw [hreport] at hround hupcoming
      rw [Decoder.answer_of_answer hround, hupcoming]
      exact .inl ⟨rfl, ⟨fs ++ [f], rest, hcount, htotal, rfl⟩⟩

theorem next_answer (h : Faces task d fs bytes) (hfinite : task.live = false) :
    Next task (d.answer .blank) (total task fs bytes) (upcoming task fs bytes) := by
  -- The induction is on the segments that are left, of which every round takes one.
  generalize hleft : segments bytes = ls
  induction ls generalizing d fs bytes with
  | nil =>
    cases h.takes hfinite with
    | exhausted hnone hround hnext =>
      subst hnone
      exact next_of_exhausted hround hnext
    | lost hsegments | line hsegments =>
      rw [hleft] at hsegments
      cases hsegments
  | cons segment ls ih =>
    cases h.takes hfinite with
    | exhausted hnone =>
      subst hnone
      cases hleft
    | lost hsegments hsegment hround hnext => exact next_of_lost hsegments hsegment hround hnext
    | line hsegments hsegment hround hline hnext =>
      rcases next_of_line hsegments hsegment hround hline hnext with
        hdone | ⟨later, gs, hsame, hlater, htotal, hupcoming⟩
      · exact hdone
      · rw [hleft] at hsegments
        rw [hsame, ← htotal, ← hupcoming]
        exact ih hlater (List.cons.inj hsegments).2.symm

end Faces

variable {all : List Finding} {calls : List Result}

theorem Ahead.next (h : Ahead task d all calls) (hfinite : task.live = false)
    (haccepted : task.accepted = true) (origin : Origin) :
    Next task ((decoder S).answer origin d 0) all calls := by
  obtain ⟨fs, bytes, hfaces, rfl, rfl⟩ := h.faces
  have hdecode : (decoder S).answer origin d 0 = d.answer .blank :=
    Decoder.decode_of_accepted (hfaces.task_eq ▸ haccepted) origin
  rw [hdecode]
  exact hfaces.next_answer hfinite

theorem Ahead.answer_eq (h : Ahead task d all calls) (hfinite : task.live = false)
    (haccepted : task.accepted = true) (origin : Origin) (i : Nat) :
    let a := (decoder S).answer origin d i
    (a.outcome, a.body) = calls[i]?.getD (dumpEnd all) := by
  have hnext := h.next hfinite haccepted origin
  induction i generalizing d calls with
  | zero =>
    rw [← List.head?_eq_getElem?]
    exact hnext.result_eq
  | succ i ih =>
    rw [RoutingDump.Decoder.answer_succ, ← List.getElem?_tail]
    exact ih hnext.ahead (hnext.ahead.next hfinite haccepted origin)

end Decoding

/-- A finite dump of any bytes, from any medium: each segment comes to a call or to none, and then
every call says how the dump has ended. -/
theorem calls_of_bytes {S : Type} [Medium S] {s : S} {bytes : List UInt8} {resource : Resource}
    {filters : Filters} (origin : Origin) (hfinite : resource.isLive = false)
    (haccepts : filters.acceptsResource resource = true) (hserves : Medium.Serves s bytes) :
    (∀ i, let a := (decoder S).answer origin (.ofMedium s resource filters) i
      (a.outcome, a.body) =
        (callsFrom filters.interval .first (0, 0) (segments bytes))[i]?.getD
          (dumpEnd (segmentFindings filters.interval (segments bytes)))) ∧
      ∀ segment text, Utf8.decode? segment = some text ↔ segment = Utf8.encode text := by
  refine ⟨fun i => ?_, fun segment text => Text.Utf8.decode?_eq_some_iff⟩
  have hahead : Ahead (.of resource filters) (.ofMedium s resource filters)
      (segmentFindings filters.interval (segments bytes))
      (callsFrom filters.interval .first (0, 0) (segments bytes)) :=
    ⟨[], bytes, faces_ofMedium hserves resource filters, rfl, rfl⟩
  exact hahead.answer_eq hfinite haccepts origin i

/-- Segments of every kind, the last one outside the interval and without a line feed. -/
theorem calls_of_bytes_mixed :
    let resource : Resource :=
      { url := "dump", project := "p", collector := "c", recordType := .ribs, initialTime := 0 }
    let filters : Filters := { interval := some ⟨10, some 20⟩ }
    let bytes : List UInt8 :=
      Utf8.encode "10|a\n".toList ++ [0xff, 0x0a] ++ Utf8.encode "\u00a0\n?\n20.7|b\n30|c".toList
    let calls : List Result :=
      [(.ok, { sec := 10, payload := some "a" }),
        (.readError, .blank),
        (.corruptedMessage, { status := .corruptedRecord, position := .middle, sec := 10 }),
        (.ok, { position := .middle, sec := 20, usec := 7, payload := some "b" })]
    ∀ i,
      let a := (decoder (List Item)).answer resource.origin
        (.ofMedium (Item.ofBytes bytes) resource filters) i;
      (a.outcome, a.body) =
        calls[i]?.getD (.endOfDump, { position := .middle, sec := 20, usec := 7 }) := by
  intro resource filters bytes calls i
  have hcalls : callsFrom filters.interval .first (0, 0) (segments bytes) = calls := by
    decide +kernel
  have hend : dumpEnd (segmentFindings filters.interval (segments bytes)) =
      (.endOfDump, { position := .middle, sec := 20, usec := 7 }) := by
    decide +kernel
  have hanswer := (@calls_of_bytes (List Item) _ (Item.ofBytes bytes) bytes resource filters
    resource.origin rfl rfl ⟨rfl, rfl⟩).1 i
  rw [hcalls, hend] at hanswer
  exact hanswer

end Ascii
end RoutingDump
