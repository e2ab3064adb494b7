import RoutingDump.Ascii.Decoder
import RoutingDump.Proofs.Ascii.Findings
import RoutingDump.Proofs.Ascii.Lines
import RoutingDump.Proofs.Medium.ReadLine

/-!
# Decoding a text

A decoder stands at some findings, which its tally adds up, and in front of an open text: the part
of a line that it has begun, then what its medium holds. A round takes one line off the open text.
So an answer is the next report of the dump, or the end of a text in which no line counts any more.
-/

namespace RoutingDump
namespace Ascii

open Medium (Preserved)
open Text (Utf8.encode)

variable {S : Type} [Medium S] {I : S → Prop}

/-- The decoder has taken in the findings `fs`, and `text` is open. `I` is what the medium is known
to be in besides. -/
structure Stands (I : S → Prop) (task : Task) (d : Decoder S) (fs : List Finding)
    (text : List Char) : Prop where
  task_eq : d.task = task
  tally_eq : d.tally = .of fs
  begun : '\n' ∉ d.line
  text_eq : ∃ unread, Medium.Holds d.medium unread ∧ text = d.line ++ unread
  sound : I d.medium

namespace Decoder

theorem round_of_read {d : Decoder S} {body : Body String} {text : List Char} {rest : S}
    (h : Medium.readLine d.medium = { bytes := Utf8.encode text, fault := none, rest := rest }) :
    d.round body =
      let read := ({ d with medium := rest } : Decoder S).keep text
      if (text.isEmpty && (d.kept.isEmpty || d.task.live) ||
          d.task.live && read.kept.head? != some '\n') = true then
        read.ended body
      else read.finishLine body := by
  unfold round
  rw [h]
  dsimp only
  rw [Text.Utf8.decode?_encode]
  rfl

omit [Medium S] in
theorem kept_isEmpty (d : Decoder S) : d.kept.isEmpty = d.line.isEmpty := by
  simp [line]

/-- A read that ends a line. -/
theorem round_of_line {d : Decoder S} {l : List Char} {rest : S}
    (hread : Medium.readLine d.medium =
      { bytes := Utf8.encode (l ++ ['\n']), fault := none, rest := rest })
    (body : Body String) :
    ∃ d' : Decoder S, d.round body = d'.finishLine body ∧ d'.line = d.line ++ l ++ ['\n'] ∧
      d'.task = d.task ∧ d'.tally = d.tally ∧ d'.medium = rest := by
  let d' := ({ d with medium := rest } : Decoder S).keep (l ++ ['\n'])
  have hline : d'.line = d.line ++ l ++ ['\n'] := by
    rw [line_keep, ← List.append_assoc]
    rfl
  have hwhole : d'.kept.head? = some '\n' := by
    rw [head?_kept, hline, List.getLast?_concat]
  have hsome : (l ++ ['\n']).isEmpty = false := by simp
  refine ⟨d', ?_, hline, rfl, rfl, rfl⟩
  rw [round_of_read hread]
  dsimp only
  rw [hsome, hwhole]
  simp [d']

/-- A read that stops in front of the end of a line. What was read is the last line of a finite
dump, if it is anything at all. -/
theorem round_of_pause {d : Decoder S} {l : List Char} {rest : S} (hbegun : '\n' ∉ d.line)
    (hl : '\n' ∉ l)
    (hread : Medium.readLine d.medium = { bytes := Utf8.encode l, fault := none, rest := rest })
    (body : Body String) :
    ∃ d' : Decoder S,
      d.round body = (if (d.task.live || d'.line.isEmpty) = true then d'.ended body
        else d'.finishLine body) ∧
      d'.line = d.line ++ l ∧ '\n' ∉ d'.line ∧ d'.task = d.task ∧ d'.tally = d.tally ∧
      d'.medium = rest := by
  let d' := ({ d with medium := rest } : Decoder S).keep l
  have hline : d'.line = d.line ++ l := line_keep _ l
  have hnone : '\n' ∉ d'.line := by
    rw [hline]
    exact List.not_mem_append hbegun hl
  have hopen : d'.kept.head? ≠ some '\n' := by
    rw [head?_kept]
    intro hlast
    exact hnone (List.mem_of_getLast? hlast)
  refine ⟨d', ?_, hline, hnone, rfl, rfl, rfl⟩
  rw [round_of_read hread]
  dsimp only
  have hcond : (l.isEmpty && (d.kept.isEmpty || d.task.live) ||
      d.task.live && d'.kept.head? != some '\n') = (d.task.live || d'.line.isEmpty) := by
    rw [hline, kept_isEmpty, bne_iff_ne.mpr hopen]
    cases d.task.live <;> cases l <;> cases d.line <;> rfl
  rw [← hcond]

theorem answer_of_answer {d : Decoder S} {body : Body String} {a : Decoded (Decoder S) String}
    (h : d.round body = .answer a) : d.answer body = a := by
  rw [answer]
  split <;> rename_i hround <;> rw [h] at hround <;> cases hround
  rfl

theorem answer_of_again {d d' : Decoder S} {body : Body String} (h : d.round body = .again d') :
    d.answer body = d'.answer body := by
  rw [answer]
  split <;> rename_i hround <;> rw [h] at hround <;> cases hround
  rfl

theorem decode_of_accepted {d : Decoder S} (h : d.task.accepted = true) (origin : Origin) :
    (decoder S).decode d { origin := origin } = d.answer .blank := by
  show d.decode .blank = _
  rw [Decoder.decode, if_pos h]

/-- A call for a resource that the filters refuse leaves the decoder as it was. -/
theorem decode_of_refused {d : Decoder S} (h : d.task.accepted = false) (record : Record String) :
    (decoder S).decode d record =
      { outcome := .filteredDump, body := { record.body with status := .filteredSource }
        state := d } := by
  show d.decode record.body = _
  rw [Decoder.decode, if_neg (Bool.eq_false_iff.mp h)]

omit [Medium S] in
theorem ended_eq (d : Decoder S) (body : Body String) :
    d.ended body =
      .answer
        { outcome := (d.tally.atEnd body).1, body := (d.tally.atEnd body).2, state := d } := rfl

omit [Medium S] in
theorem finishLine_blank {d : Decoder S} {body : Body String}
    (h : Finding.of? d.task.interval d.line = none) :
    d.finishLine body = .again { d with kept := [] } := by
  unfold Finding.of? at h
  unfold finishLine
  dsimp only at h ⊢
  split at h
  · rename_i hempty
    rw [if_pos hempty]
  · cases h

omit [Medium S] in
theorem finishLine_counted {d : Decoder S} {f : Finding}
    (h : Finding.of? d.task.interval d.line = some f) :
    let next : Decoder S := { d with kept := [], tally := d.tally.count f }
    d.finishLine .blank =
      match d.tally.report f with
      | none => .again next
      | some r =>
        .answer
          { outcome := r.1, body := r.2, state := next
            notices :=
              if r.1 = .corruptedMessage then [.corruptedLine next.tally.linesRead d.task.url]
              else [] } := by
  unfold Finding.of? at h
  unfold finishLine
  dsimp only at h ⊢
  split at h
  · cases h
  · rename_i htext
    cases h
    rw [if_neg htext, Tally.take_blank]
    dsimp only
    cases d.tally.report (Finding.of d.task.interval (Text.trim d.line)) <;> rfl

omit [Medium S] in
/-- Any other line counts as its finding, which may come to an answer. -/
theorem finishLine_finding {d : Decoder S} {f : Finding}
    (h : Finding.of? d.task.interval d.line = some f) :
    let next : Decoder S := { d with kept := [], tally := d.tally.count f }
    match d.tally.report f with
    | none => d.finishLine .blank = .again next
    | some r => ∃ notices, d.finishLine .blank =
        .answer { outcome := r.1, body := r.2, state := next, notices := notices } := by
  dsimp only
  rw [finishLine_counted h]
  cases d.tally.report f with
  | none => rfl
  | some r => exact ⟨_, rfl⟩

end Decoder

namespace Stands

variable {task : Task} {d : Decoder S} {fs : List Finding} {text : List Char}

theorem round_line (hI : Preserved I) (h : Stands I task d fs text) {l r : List Char}
    (hl : '\n' ∉ l) (hholds : Medium.Holds d.medium (l ++ '\n' :: r)) (body : Body String) :
    ∃ d' : Decoder S, d.round body = d'.finishLine body ∧ d'.line = d.line ++ l ++ ['\n'] ∧
      Stands I task { d' with kept := [] } fs r := by
  obtain ⟨rest, hread, hrest⟩ := Medium.readLine_lineFeed hl hholds
  have hsound := Medium.readLine_preserves hI h.sound
  rw [hread] at hsound
  obtain ⟨d', hround, hline, htask, htally, rfl⟩ := Decoder.round_of_line hread body
  exact ⟨d', hround, hline, htask.trans h.task_eq, htally.trans h.tally_eq, List.not_mem_nil,
    ⟨r, hrest, rfl⟩, hsound⟩

/-- A round that reads all that is left. It goes on with the line of a finite dump, if there is
one, and with nothing otherwise. -/
theorem round_rest (hI : Preserved I) (h : Stands I task d fs text) {unread : List Char}
    (hunread : '\n' ∉ unread) (hholds : Medium.Holds d.medium unread) (body : Body String) :
    ∃ d' : Decoder S, d'.line = d.line ++ unread ∧ d'.task = task ∧ d'.tally = .of fs ∧
      Medium.Holds d'.medium [] ∧ I d'.medium ∧
      d.round body =
        if (task.live || d'.line.isEmpty) = true then d'.ended body else d'.finishLine body := by
  obtain ⟨rest, hread, hrest⟩ := Medium.readLine_end hunread hholds
  have hsound := Medium.readLine_preserves hI h.sound
  rw [hread] at hsound
  obtain ⟨d', hround, hline, -, htask, htally, rfl⟩ :=
    Decoder.round_of_pause h.begun hunread hread body
  rw [h.task_eq] at hround
  exact ⟨d', hline, htask.trans h.task_eq, htally.trans h.tally_eq, hrest, hsound, hround⟩

/-- One round takes the next line that counts off the open text. -/
theorem round_spec (hI : Preserved I) (h : Stands I task d fs text) (body : Body String) :
    match lines task.live text with
    | [] => ∃ d', d.round body = d'.ended body ∧ Stands I task d' fs text
    | l :: ls => ∃ (d' : Decoder S) (rest : List Char),
        d.round body = d'.finishLine body ∧ d'.line = l ∧
          Stands I task { d' with kept := [] } fs rest ∧ lines task.live rest = ls ∧
          (task.live = true → openRest rest = openRest text) := by
  obtain ⟨unread, hholds, htext⟩ := h.text_eq
  -- What was begun has no line feed, so the next line ends at the first one that is not read yet.
  by_cases hfeed : '\n' ∈ unread
  · obtain ⟨l, r, rfl, hl⟩ := List.eq_append_cons_of_mem hfeed
    have hbegun : '\n' ∉ d.line ++ l := List.not_mem_append h.begun hl
    rw [← List.append_assoc] at htext
    obtain ⟨d', hround, hline, hnext⟩ := h.round_line hI hl hholds body
    rw [htext, lines_line hbegun, openRest_line hbegun]
    exact ⟨d', r, hround, hline, hnext, rfl, fun _ => rfl⟩
  · obtain ⟨d', hline, htask, htally, hholds', hsound, hround⟩ := h.round_rest hI hfeed hholds body
    have hnone : '\n' ∉ text := by
      rw [htext]
      exact List.not_mem_append h.begun hfeed
    rw [← htext] at hline
    rw [lines_of_not_mem hnone]
    rw [hline] at hround
    by_cases hend : (task.live || text.isEmpty) = true
    · rw [if_pos hend] at hround ⊢
      refine ⟨d', hround, htask, htally, hline ▸ hnone, ⟨[], hholds', ?_⟩, hsound⟩
      rw [hline, List.append_nil]
    · rw [if_neg hend] at hround ⊢
      have hfinite : task.live = false := by
        cases hlive : task.live with
        | false => rfl
        | true => exact absurd (by rw [hlive]; rfl) hend
      refine ⟨d', [], hround, hline, ?_, ?_, ?_⟩
      · exact ⟨htask, htally, List.not_mem_nil, ⟨[], hholds', rfl⟩, hsound⟩
      · rw [lines_of_not_mem List.not_mem_nil, hfinite]
        rfl
      · intro hlive
        rw [hfinite] at hlive
        cases hlive

end Stands

/-- An answer `a` to a decoder that stood at `fs` in front of `text`: it has taken in the findings
`gs`, and `rest` is open now. -/
structure Answers (I : S → Prop) (task : Task) (fs : List Finding) (text : List Char)
    (a : Decoded (Decoder S) String) (gs : List Finding) (rest : List Char) : Prop where
  stands : Stands I task a.state (fs ++ gs) rest
  findings_eq :
    findings task.interval (lines task.live text) =
      gs ++ findings task.interval (lines task.live rest)
  openRest_eq : task.live = true → openRest rest = openRest text
  ne_readError : a.outcome ≠ .readError
  reported : a.outcome.endsDump = false → reports (fs ++ gs) = reports fs ++ [a.body]
  ended : a.outcome.endsDump = true →
    lines task.live rest = [] ∧ reports (fs ++ gs) = reports fs ∧
      (a.outcome, a.body) = (Tally.of (fs ++ gs)).atEnd .blank

/-- Lines in front of an answer that came to no report, but may have left findings. -/
theorem Answers.skip {task : Task} {fs skipped gs : List Finding} {text next rest : List Char}
    {a : Decoded (Decoder S) String} (h : Answers I task (fs ++ skipped) next a gs rest)
    (hfindings : findings task.interval (lines task.live text) =
      skipped ++ findings task.interval (lines task.live next))
    (hopen : task.live = true → openRest next = openRest text)
    (hreports : reports (fs ++ skipped) = reports fs) :
    Answers I task fs text a (skipped ++ gs) rest := by
  have hassoc : fs ++ (skipped ++ gs) = fs ++ skipped ++ gs := (List.append_assoc ..).symm
  refine ⟨hassoc ▸ h.stands, ?_, fun hlive => ?_, h.ne_readError, ?_, ?_⟩
  · rw [hfindings, h.findings_eq, List.append_assoc]
  · rw [h.openRest_eq hlive, hopen hlive]
  · rw [hassoc, ← hreports]
    exact h.reported
  · rw [hassoc, ← hreports]
    exact h.ended

namespace Stands

variable {task : Task} {d : Decoder S} {fs : List Finding} {text : List Char}

theorem decode_eq (h : Stands I task d fs text) (haccepted : task.accepted = true)
    (origin : Origin) : (decoder S).decode d { origin := origin } = d.answer .blank :=
  Decoder.decode_of_accepted (h.task_eq ▸ haccepted) origin

theorem count {d' : Decoder S} (h : Stands I task { d with kept := [] } fs text) (f : Finding)
    (hd' : d' = { d with kept := [], tally := d.tally.count f }) :
    Stands I task d' (fs ++ [f]) text := by
  subst hd'
  refine ⟨h.task_eq, ?_, h.begun, h.text_eq, h.sound⟩
  have htally : d.tally = .of fs := h.tally_eq
  rw [Tally.of_concat, ← htally]

theorem reports_concat_of_report {fs : List Finding} {f : Finding} {r : Option Result}
    (h : (Tally.of fs).report f = r) :
    reports (fs ++ [f]) = reports fs ++ r.toList.map Prod.snd := by
  rw [Tally.reports_concat, h]

/-- The induction is on the lines that still count: every round takes one of them. -/
theorem answers (hI : Preserved I) (h : Stands I task d fs text) :
    ∃ gs rest, Answers I task fs text (d.answer .blank) gs rest := by
  generalize hlines : lines task.live text = ls
  induction ls generalizing d fs text with
  | nil =>
    have hround := h.round_spec hI .blank
    rw [hlines] at hround
    obtain ⟨d', hround, hd'⟩ := hround
    rw [Decoder.ended_eq] at hround
    rw [Decoder.answer_of_answer hround]
    have hends := Tally.endsDump_atEnd d'.tally .blank
    refine ⟨[], text, ?_, rfl, fun _ => rfl, ?_, fun hgoes => ?_, fun _ => ⟨hlines, ?_, ?_⟩⟩
    · rw [List.append_nil]
      exact hd'
    · intro hread
      rw [show (d'.tally.atEnd .blank).1 = .readError from hread] at hends
      cases hends
    · exact absurd (hends.symm.trans hgoes) (by decide)
    · rw [List.append_nil]
    · rw [List.append_nil, ← hd'.tally_eq]
  | cons l ls ih =>
    have hround := h.round_spec hI .blank
    rw [hlines] at hround
    obtain ⟨d', rest, hround, hline, hnext, hrest, hopen⟩ := hround
    have htask : d'.task = task := hnext.task_eq
    have htally : d'.tally = .of fs := hnext.tally_eq
    cases hfinding : Finding.of? task.interval l with
    | none =>
      rw [Decoder.finishLine_blank (by rw [htask, hline, hfinding])] at hround
      rw [← List.append_nil fs] at hnext
      obtain ⟨gs, rest', hans⟩ := ih hnext hrest
      rw [Decoder.answer_of_again hround]
      refine ⟨gs, rest', hans.skip ?_ hopen (by rw [List.append_nil])⟩
      rw [hlines, findings_cons, hfinding, hrest]
      rfl
    | some f =>
      have hfinish := Decoder.finishLine_finding (d := d') (f := f) (by rw [htask, hline, hfinding])
      dsimp only at hfinish
      have hcount := hnext.count f rfl
      cases hreport : d'.tally.report f with
      | none =>
        rw [hreport] at hfinish
        rw [hfinish] at hround
        obtain ⟨gs, rest', hans⟩ := ih hcount hrest
        rw [Decoder.answer_of_again hround]
        refine ⟨[f] ++ gs, rest', hans.skip ?_ hopen ?_⟩
        · rw [hlines, findings_cons, hfinding, hrest]
          rfl
        · rw [reports_concat_of_report (htally ▸ hreport)]
          exact List.append_nil _
      | some r =>
        rw [hreport] at hfinish
        obtain ⟨notices, hfinish⟩ := hfinish
        rw [hfinish] at hround
        rw [Decoder.answer_of_answer hround]
        obtain ⟨hread, hgoes⟩ := Tally.report_outcome hreport
        refine ⟨[f], rest, hcount, ?_, hopen, hread, fun _ => ?_, fun hends => ?_⟩
        · rw [hlines, findings_cons, hfinding, hrest]
          rfl
        · rw [reports_concat_of_report (htally ▸ hreport)]
          rfl
        · exact absurd (hgoes.symm.trans hends) (by decide)

end Stands

end Ascii
end RoutingDump
