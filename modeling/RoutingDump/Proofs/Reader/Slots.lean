import RoutingDump.Proofs.Reader.Opened
import RoutingDump.Proofs.Stream.Slots
import RoutingDump.Script

/-!
# Slots and records of an opened reader

An open makes two records and decodes into the left one. From there on the slots take turns, pull
by pull. Every record that the decoder sees is blank up to its origin, and every record that is
handed out carries what a single call has made of such a record.
-/

namespace RoutingDump

variable {ω σ P : Type}

namespace Stream.Built

variable {D : Decoder σ P} {resource : Resource} {d : σ} {s : Stream σ P}

theorem ready (h : s.Built D resource d) : s.Ready := by
  refine ⟨?_, h.vacant⟩
  obtain ⟨decoder, buffer, -, rfl⟩ := h.allocated
  rfl

theorem decodeCall_eq (h : s.Built D resource d) :
    s.decodeCall = (.left, { origin := resource.origin }) := by
  rw [Stream.decodeCall_eq h.stamped, h.ahead_eq, h.resource_eq]

end Stream.Built

namespace Reader

variable {F : Format ω σ P} {policy : RetryPolicy} {resource : Resource} {w : ω}

theorem value_calls_streaming {r : Reader ω σ P} {s : Stream σ P} (h : r.phase = .streaming s)
    (n : Nat) :
    (r.calls F (List.replicate n .next)).value.2 =
      { r with phase := .streaming (s.after F.toDecoder n) } := by
  induction n generalizing r s with
  | zero =>
    show r = { r with phase := .streaming s }
    rw [← h]
  | succ n ih =>
    have hlater := ih (r := { r with phase := .streaming (s.advance F.toDecoder).value.2 }) rfl
    rw [Stream.after_advance] at hlater
    rw [List.replicate_succ]
    unfold calls call
    rw [next_streaming h]
    exact hlater

/-- What an open and `n` pulls leave, answer and call the decoder for. -/
theorem calls_opened {d : σ} (h : Opener.ready? F policy resource w = some d) :
    ∃ built : Stream σ P, built.Built F.toDecoder resource d ∧
      let s := (built.prefetch F.toDecoder).value.2
      s.Fresh F.toDecoder resource d ∧ ∀ n,
        let run := (start resource policy w).calls F (.openWait :: List.replicate n .next)
        run.value.2.phase = .streaming (s.after F.toDecoder n) ∧
          run.value.1 = .opened (.ok ()) :: ((List.range n).map fun i =>
            .pulled ((s.after F.toDecoder i).advance F.toDecoder).value.1) ∧
          Event.decodes run.events = (built :: s.decoding F.toDecoder n).map Stream.decodeCall := by
  obtain ⟨built, hbuilt, hresolve⟩ := resolve_built h
  have hfresh := hbuilt.fresh
  refine ⟨built, hbuilt, hfresh, fun n => ?_⟩
  have hphase : ((start resource policy w).resolve F).value.phase =
      .streaming (built.prefetch F.toDecoder).value.2 := by rw [hresolve]
  obtain ⟨-, -, -, hopening⟩ := resolve_ready h
  obtain ⟨hevents, hreader⟩ := openWait_eq (F := F) (start resource policy w)
  have hopened : ((start resource policy w).openWait F).value.1 = .ok () :=
    openWait_ok_iff.mpr ⟨d, h⟩
  obtain ⟨hanswers, hpulling⟩ := calls_streaming (F := F) hphase n
  have hafter := value_calls_streaming (F := F) hphase n
  rw [← hreader] at hanswers hpulling hafter
  refine ⟨?_, ?_, ?_⟩
  · show (((start resource policy w).openWait F).value.2.calls F
      (List.replicate n .next)).value.2.phase = _
    rw [hafter]
  · show ReaderAnswer.opened ((start resource policy w).openWait F).value.1 ::
      (((start resource policy w).openWait F).value.2.calls F
        (List.replicate n .next)).value.1 = _
    rw [hopened, hanswers, Stream.value_pulls_eq_map, List.map_map]
    rfl
  · show Event.decodes (((start resource policy w).openWait F).events ++
      (((start resource policy w).openWait F).value.2.calls F
        (List.replicate n .next)).events) = _
    rw [Event.decodes_append, hevents, hopening, hpulling,
      Stream.decodes_pulls_eq_map hfresh.stamped, List.map_cons, hbuilt.decodeCall_eq]
    rfl

end Reader

/-! ### Slots -/

/-- The slot that a pull hands out. -/
def Stream.shown (s : Stream σ P) : Side := s.buffer.ahead.other

/-- The use of the slots from an open on, where `s n` is the stream after `n` pulls and `calls n`
holds the streams on which the decoder was called by then, each as it was right before the call. -/
structure SlotDiscipline (D : Decoder σ P) (s : Nat → Stream σ P)
    (calls : Nat → List (Stream σ P)) : Prop where
  ready : ∀ n, ∀ t ∈ calls n, t.state = .active ∧ t.buffer.prefetch.filled = false
  in_turn : ∀ n j t, (calls n)[j]? = some t → t.buffer.ahead.index = j % 2
  /-- A record stands in the slot handed out, which is not the one that this pull decodes into. -/
  handed_out : ∀ i record, ((s i).advance D).value.1 = .ok record →
    (s (i + 1)).shown.index = i % 2 ∧
      (s (i + 1)).buffer.slot (s (i + 1)).shown = { record := record, filled := true } ∧
      ∀ call ∈ Event.decodes ((s i).advance D).events, call.1 ≠ (s (i + 1)).shown
  alternate : ∀ i, (s (i + 2)).shown ≠ (s (i + 1)).shown
  ended : ∀ i, (s i).state ≠ .active → ∀ j ≥ i, (s j).state = (s i).state ∧ calls j = calls i

namespace Stream

variable {D : Decoder σ P} {resource : Resource} {d : σ}

theorem shown_after {s : Stream σ P} (h : s.Stamped) (i : Nat) :
    (s.after D (i + 1)).shown = (s.after D i).buffer.ahead := by
  rw [shown, after_succ, ahead_advance (stamped_after h i), Side.other_other]

theorem slotDiscipline {s built : Stream σ P} (hbuilt : built.Built D resource d)
    (hfresh : s.Fresh D resource d) :
    SlotDiscipline D (s.after D) fun n => built :: s.decoding D n where
  ready n t ht := by
    have hready : t.Ready := by
      rcases List.mem_cons.mp ht with rfl | ht
      · exact hbuilt.ready
      · exact ready_of_mem_decoding ht
    exact ⟨hready.active, hready.vacant⟩
  in_turn n j t ht := by
    cases j with
    | zero =>
      cases ht
      rw [hbuilt.ahead_eq]
      rfl
    | succ j =>
      have hahead := ahead_decoding hfresh.stamped ht
      rw [hahead, hfresh.ahead_eq, Side.index_iterate_other]
  handed_out i record hok := by
    have hstamped := stamped_after (D := D) hfresh.stamped i
    have hshown := shown_after (D := D) hfresh.stamped i
    refine ⟨?_, ?_, ?_⟩
    · rw [hshown, ahead_after hfresh.stamped, hfresh.ahead_eq, Side.index_iterate_other]
    · rw [hshown, after_succ]
      exact exported_of_advance_ok hstamped hok
    · intro call hcall
      rw [decodes_advance hstamped] at hcall
      split at hcall
      · rw [List.mem_singleton.mp hcall, hshown]
        exact Side.other_ne _
      · cases hcall
  alternate i := by
    have hahead := ahead_advance (D := D) (stamped_after (D := D) hfresh.stamped i)
    rw [shown_after hfresh.stamped, shown_after hfresh.stamped, after_succ, hahead]
    exact Side.other_ne _
  ended i hinactive j hj := by
    obtain ⟨k, rfl⟩ := Nat.exists_eq_add_of_le hj
    have hlater : s.after D (i + k) = (s.after D i).after D k := by
      rw [Nat.add_comm, after, Function.iterate_add_apply]
      rfl
    refine ⟨?_, ?_⟩
    · rw [hlater]
      exact state_after_of_inactive hinactive k
    · rw [decoding_add, decoding_of_inactive hinactive, List.append_nil]

end Stream

/-! ### Records -/

/-- The records of an opened reader whose decoder gives the answers `a`: `calls` are those that the
decoder is given and `pulls` hold those handed out. -/
structure CleanRecords (resource : Resource) (a : Nat → Decoded σ P)
    (calls : List (Side × Record P)) (pulls : List (Pull P)) : Prop where
  blank : ∀ call ∈ calls, call.2.body =
    { status := .valid, position := .first, sec := 0, usec := 0, payload := none }
  origin : ∀ record, record ∈ calls.map Prod.snd ∨ record ∈ pulls.filterMap Pull.record? →
    record.origin =
      { project := truncateName resource.project
        collector := truncateName resource.collector
        recordType := resource.recordType
        dumpTime := resource.initialTime }
  /-- Apart from the mark of the end, a body is what a single call has made of a blank one. -/
  body : ∀ i record, pulls[i]? = some (.ok record) →
    record.body = (a i).body ∨
      ((a (i + 1)).outcome = .endOfDump ∧ (a (i + 1)).body.position = .last) ∧
        record.body = { (a i).body with position := .last }

theorem Decoded.endsDump_of_marksEnd {a : Decoded σ P} {live : Bool} (h : a.marksEnd live = true) :
    a.outcome = .endOfDump ∧ a.body.position = .last := by
  unfold marksEnd at h
  rw [Bool.and_eq_true] at h
  exact of_decide_eq_true h.2

namespace Reader

variable {F : Format ω σ P} {policy : RetryPolicy} {resource : Resource} {w : ω}

theorem cleanRecords {d : σ} (h : Opener.ready? F policy resource w = some d) (n : Nat) :
    CleanRecords resource (F.answer resource.origin d)
      (Event.decodes
        ((start resource policy w).calls F (.openWait :: List.replicate n .next)).events)
      ((start resource policy w).pulls F n) := by
  have hcall (call : Side × Record P)
      (hcall : call ∈ Event.decodes
        ((start resource policy w).calls F (.openWait :: List.replicate n .next)).events) :
      call.2 = { origin := resource.origin } := by
    rw [decodes_ready h] at hcall
    rcases List.mem_cons.mp hcall with rfl | hcall
    · rfl
    · obtain ⟨i, -, rfl⟩ := List.mem_map.mp hcall
      rfl
  have hpulled (p : Pull P) (hp : p ∈ (start resource policy w).pulls F n) :
      ∃ i, p = (Lookahead.opened F.toDecoder resource d).pulled F.toDecoder resource i := by
    rw [pulls_ready h] at hp
    obtain ⟨i, -, rfl⟩ := List.mem_map.mp hp
    exact ⟨i, rfl⟩
  constructor
  case blank =>
    intro call hmem
    rw [hcall call hmem]
    rfl
  case origin =>
    rintro record (hmem | hmem)
    · obtain ⟨call, hseen, rfl⟩ := List.mem_map.mp hmem
      rw [hcall call hseen]
      rfl
    · obtain ⟨p, hp, hrecord⟩ := List.mem_filterMap.mp hmem
      obtain ⟨i, rfl⟩ := hpulled p hp
      have hok := Lookahead.pull_of_record? hrecord
      rw [(Lookahead.body_of_pulled hok).1]
      rfl
  case body =>
    intro i record hi
    rw [pulls_ready h, List.getElem?_map] at hi
    obtain ⟨j, hj, hok⟩ := Option.map_eq_some_iff.mp hi
    obtain ⟨hlt, hj⟩ := List.getElem?_eq_some_iff.mp hj
    rw [List.getElem_range] at hj
    subst hj
    refine (Lookahead.body_of_pulled hok).2.imp id ?_
    rintro ⟨hmark, hbody⟩
    exact ⟨Decoded.endsDump_of_marksEnd hmark, hbody⟩

/-- The decoder is only ever called on an active stream with an empty slot ahead, the calls and the
pulls take the slots in turn, and no call follows the end or a failure of the stream. -/
theorem slot_discipline (hopen : ((start resource policy w).openWait F).value.1 = .ok ()) :
    ∃ d built, Opener.ready? F policy resource w = some d ∧
      Stream.Built F.toDecoder resource d built ∧
      let s := (built.prefetch F.toDecoder).value.2
      (∀ n,
        let run := (start resource policy w).calls F (.openWait :: List.replicate n .next)
        run.value.2.phase = .streaming (s.after F.toDecoder n) ∧
          run.value.1 = .opened (.ok ()) :: ((List.range n).map fun i =>
            .pulled ((s.after F.toDecoder i).advance F.toDecoder).value.1) ∧
          Event.decodes run.events = (built :: s.decoding F.toDecoder n).map Stream.decodeCall) ∧
      SlotDiscipline F.toDecoder (s.after F.toDecoder)
        fun n => built :: s.decoding F.toDecoder n := by
  obtain ⟨d, hready⟩ := openWait_ok_iff.mp hopen
  obtain ⟨built, hbuilt, hfresh, hruns⟩ := calls_opened hready
  exact ⟨d, built, hready, hbuilt, hruns, Stream.slotDiscipline hbuilt hfresh⟩

/-- A live script that is quiet once, hands out two records and then fails. -/
theorem slot_discipline_quiet_script :
    let resource : Resource :=
      { url := "feed", project := "p", collector := "c", recordType := .updates, initialTime := 0
        extent := .forever }
    let script : Script UInt32 :=
      .start
        [.timed .ok 10 .first, .atEnd, .timed .ok 20 .middle, .timed .ok 30 .last,
          .timed .readError 0 .first]
        false .atEnd []
    let calls (n : Nat) :=
      (start resource {} script).calls Script.format (.openWait :: List.replicate n .next)
    ∃ d built, Opener.ready? Script.format {} resource script = some d ∧
      Stream.Built Script.decoder resource d built ∧
      let s := (built.prefetch Script.decoder).value.2
      (∀ n,
        (calls n).value.2.phase = .streaming (s.after Script.decoder n) ∧
          (calls n).value.1 = .opened (.ok ()) :: ((List.range n).map fun i =>
            .pulled ((s.after Script.decoder i).advance Script.decoder).value.1) ∧
          Event.decodes (calls n).events =
            (built :: s.decoding Script.decoder n).map Stream.decodeCall) ∧
      SlotDiscipline Script.decoder (s.after Script.decoder)
        (fun n => built :: s.decoding Script.decoder n) ∧
      ((calls 6).value.1.filterMap ReaderAnswer.pull?).map Pull.status =
        ["ok", "again", "ok", "error", "end-of-stream", "end-of-stream"] ∧
      (Event.decodes (calls 6).events).map Prod.fst = [.left, .right, .left, .right, .left] := by
  intro resource script calls
  have hopen : ((start resource {} script).openWait Script.format).value.1 = .ok () := rfl
  obtain ⟨d, built, hready, hbuilt, hruns, hslots⟩ := slot_discipline hopen
  have hstatus : ((calls 6).value.1.filterMap ReaderAnswer.pull?).map Pull.status =
      ["ok", "again", "ok", "error", "end-of-stream", "end-of-stream"] := by decide +kernel
  have hsides : (Event.decodes (calls 6).events).map Prod.fst =
      [.left, .right, .left, .right, .left] := by decide +kernel
  exact ⟨d, built, hready, hbuilt, hruns, hslots, hstatus, hsides⟩

/-- Every record that the decoder is given is blank, and no pull or call changes an origin. -/
theorem records_clean (hopen : ((start resource policy w).openWait F).value.1 = .ok ()) :
    ∃ d, Opener.ready? F policy resource w = some d ∧ ∀ n,
      CleanRecords resource (F.answer resource.origin d)
        (Event.decodes
          ((start resource policy w).calls F (.openWait :: List.replicate n .next)).events)
        ((start resource policy w).pulls F n) := by
  obtain ⟨d, hready⟩ := openWait_ok_iff.mp hopen
  exact ⟨d, hready, cleanRecords hready⟩

/-- A script whose records are made with a time, and whose steps set single fields and take a
payload out again. -/
theorem records_clean_partial_writes :
    let resource : Resource :=
      { url := "dump", project := "p", collector := "c", recordType := .ribs, initialTime := 7 }
    let script : Script UInt32 :=
      .start
        [{ outcome := .ok, edit := { sec := some 10, payload := some 1 } },
          { outcome := .ok, edit := { status := some .unsupportedRecord, takesPayload := true } },
          { outcome := .unsupportedMessage, edit := { usec := some 5 } }]
        false .atEnd
        [.ok { sec := some 99, position := some .last }, .ok { payload := some 3 }]
    ∃ d, Opener.ready? Script.format {} resource script = some d ∧ ∀ n,
      CleanRecords resource (Script.decoder.answer resource.origin d)
        (Event.decodes
          ((start resource {} script).calls Script.format
            (.openWait :: List.replicate n .next)).events)
        ((start resource {} script).pulls Script.format n) :=
  records_clean rfl

end Reader
end RoutingDump
