import RoutingDump.Proofs.Ascii.TextDump
import RoutingDump.Proofs.Reader.Finite

/-!
# Finite ascii dumps

What pulls of a finite ascii dump give is a function of its text: the reports of its findings, the
last one marked if the last line that is not blank was delivered, or one record that says why there
is none.
-/

namespace RoutingDump
namespace Ascii

def closeLast (bs : List (Body String)) : List (Body String) :=
  bs.modify (bs.length - 1) Body.asLast

/-- The records of a finite dump with the given findings. -/
def dumpRecords (fs : List Finding) : List (Body String) :=
  if fs = [] then [{ status := .emptySource, position := .last }]
  else if reports fs = [] then [{ status := .filteredSource, position := .last }]
  else if fs.getLast? = some .outside then reports fs
  else closeLast (reports fs)

theorem getElem?_closeLast (bs : List (Body String)) (i : Nat) :
    (closeLast bs)[i]? = bs[i]?.map fun b => if i + 1 = bs.length then b.asLast else b := by
  rw [closeLast, List.getElem?_modify]
  by_cases hi : i < bs.length
  · rw [List.getElem?_eq_getElem hi]
    refine congrArg some (if_congr ?_ rfl rfl)
    omega
  · rw [List.getElem?_eq_none (Nat.le_of_not_lt hi)]
    rfl

/-- A sequence that runs through a list and then stays at `e`. -/
theorem map_range_eq_take {α : Type} {p : Nat → α} {l : List α} {e : α}
    (h : ∀ i, p i = l[i]?.getD e) (n : Nat) :
    (List.range n).map p = (l ++ List.replicate n e).take n := by
  refine List.ext_getElem (by simp) fun i hi _ => ?_
  have hn : i < n := by simpa using hi
  rw [List.getElem_map, List.getElem_range, List.getElem_take, h]
  by_cases hl : i < l.length
  · rw [List.getElem_append_left hl, List.getElem?_eq_getElem hl]
    rfl
  · rw [List.getElem_append_right (Nat.le_of_not_lt hl), List.getElem_replicate,
      List.getElem?_eq_none (Nat.le_of_not_lt hl)]
    rfl

theorem filterMap_take_replicate {α β : Type} {f : α → Option β} {e : α} (he : f e = none)
    (as : List α) (n : Nat) :
    ((as ++ List.replicate n e).take n).filterMap f = (as.take n).filterMap f := by
  have hnone : ((List.replicate n e).take (n - as.length)).filterMap f = [] := by
    refine List.filterMap_eq_nil_iff.mpr fun a ha => ?_
    rw [List.eq_of_mem_replicate (List.mem_of_mem_take ha), he]
  rw [List.take_append, List.filterMap_append, hnone, List.append_nil]

section Answers

variable {S : Type} [Medium S] {I : S → Prop} {task : Task} {d : Decoder S}
  {text : List Char}

/-- A finite dump on the way: the findings taken in so far and those to come make up all. -/
structure Underway (I : S → Prop) (task : Task) (all : List Finding) (i : Nat) (d : Decoder S)
    (fs : List Finding) (rest : List Char) : Prop where
  stands : Stands I task d fs rest
  findings_eq : all = fs ++ findings task.interval (lines task.live rest)
  length_eq : (reports fs).length = i

/-- The next answer is the next report, or the end if there is none. -/
theorem Underway.answer (hI : Medium.Preserved I) {all fs : List Finding} {i : Nat}
    {rest : List Char} (h : Underway I task all i d fs rest) :
    let a := d.answer .blank
    (∃ fs' rest', Underway I task all (i + 1) a.state fs' rest' ∧ a.outcome.endsDump = false ∧
        a.outcome ≠ .readError ∧ (reports all)[i]? = some a.body) ∨
      (i = (reports all).length ∧ (a.outcome, a.body) = (Tally.of all).atEnd .blank) := by
  obtain ⟨gs, rest', hans⟩ := h.stands.answers hI
  have hall : all = fs ++ gs ++ findings task.interval (lines task.live rest') := by
    rw [h.findings_eq, hans.findings_eq, List.append_assoc]
  cases hends : (d.answer .blank).outcome.endsDump with
  | false =>
    have hreport := hans.reported hends
    obtain ⟨later, hlater⟩ := prefix_reports_append (fs ++ gs)
      (findings task.interval (lines task.live rest'))
    rw [← hall, hreport, List.append_assoc] at hlater
    refine .inl ⟨fs ++ gs, rest', ⟨hans.stands, hall, ?_⟩, hends, hans.ne_readError, ?_⟩
    · rw [hreport, List.length_append, h.length_eq]
      rfl
    · rw [← hlater, ← h.length_eq, List.getElem?_append_right (Nat.le_refl _), Nat.sub_self]
      rfl
  | true =>
    obtain ⟨hnone, hsame, hend⟩ := hans.ended hends
    rw [hnone, findings, List.filterMap_nil, List.append_nil] at hall
    rw [hall]
    exact .inr ⟨by rw [hsame, h.length_eq], hend⟩

variable (origin : Origin) (hI : Medium.Preserved I) (haccepted : task.accepted = true)
  (h : Stands I task d [] text)

include hI haccepted h

/-- The induction is on the number of answers: as long as a report is to come, an answer is not
the end. -/
theorem underway_after {i : Nat}
    (hi : i ≤ (reports (findings task.interval (lines task.live text))).length) :
    ∃ fs rest, Underway I task (findings task.interval (lines task.live text)) i
      ((decoder S).after origin d i) fs rest := by
  induction i with
  | zero => exact ⟨[], text, h, rfl, rfl⟩
  | succ i ih =>
    obtain ⟨fs, rest, hway⟩ := ih (Nat.le_of_succ_le hi)
    have hdecode := hway.stands.decode_eq haccepted origin
    rw [Decoder.after_succ, RoutingDump.Decoder.answer, hdecode]
    rcases hway.answer hI with ⟨fs', rest', hnext, -⟩ | ⟨hend, -⟩
    · exact ⟨fs', rest', hnext⟩
    · omega

theorem answer_report {i : Nat}
    (hi : i < (reports (findings task.interval (lines task.live text))).length) :
    let a := (decoder S).answer origin d i
    a.outcome.endsDump = false ∧ a.outcome ≠ .readError ∧
      (reports (findings task.interval (lines task.live text)))[i]? = some a.body := by
  obtain ⟨fs, rest, hway⟩ := underway_after origin hI haccepted h (Nat.le_of_lt hi)
  dsimp only
  rw [RoutingDump.Decoder.answer, hway.stands.decode_eq haccepted origin]
  rcases hway.answer hI with ⟨_, _, -, hreport⟩ | ⟨hend, -⟩
  · exact hreport
  · omega

theorem answer_end :
    let all := findings task.interval (lines task.live text)
    let a := (decoder S).answer origin d (reports all).length
    (a.outcome, a.body) = (Tally.of all).atEnd .blank := by
  obtain ⟨fs, rest, hway⟩ := underway_after origin hI haccepted h (Nat.le_refl _)
  dsimp only
  rw [RoutingDump.Decoder.answer, hway.stands.decode_eq haccepted origin]
  rcases hway.answer hI with ⟨_, _, -, -, -, hreport⟩ | ⟨-, hend⟩
  · rw [List.getElem?_eq_none (Nat.le_refl _)] at hreport
    cases hreport
  · exact hend

theorem endsAt_reports :
    EndsAt ((decoder S).answer origin d)
      (reports (findings task.interval (lines task.live text))).length := by
  constructor
  · have hend := answer_end origin hI haccepted h
    exact .inr ((congrArg (·.1.endsDump) hend).trans (Tally.endsDump_atEnd _ _))
  · intro j hj
    by_contra hlt
    obtain ⟨hgoes, hread, -⟩ :=
      answer_report origin hI haccepted h (Nat.lt_of_not_le hlt)
    rcases hj with hj | hj
    · exact hread hj
    · rw [hgoes] at hj
      cases hj

end Answers

namespace Tally

theorem atEnd_nil : (of []).atEnd .blank =
    (.emptyDump, { status := .emptySource, position := .last }) := rfl

theorem atEnd_of_reports_nil {fs : List Finding} (hfs : fs ≠ []) (hnone : reports fs = []) :
    (of fs).atEnd .blank = (.filteredDump, { status := .filteredSource, position := .last }) := by
  have hlines : (of fs).linesRead ≠ 0 := by
    rw [linesRead_of]
    exact mt List.length_eq_zero_iff.mp hfs
  have hdelivered : (of fs).delivered = 0 := by
    rw [delivered_of, hnone]
    rfl
  rw [atEnd, if_neg hlines, if_pos hdelivered]
  rfl

/-- The end of a dump is the end of its last record if that record was not followed by a line
outside the interval. -/
theorem atEnd_of_reports {fs : List Finding} (hsome : reports fs ≠ []) :
    ((of fs).atEnd .blank).1 = .endOfDump ∧
      (((of fs).atEnd .blank).2.position = .last ↔ fs.getLast? ≠ some .outside) := by
  have hdelivered : (of fs).delivered ≠ 0 := by
    rw [delivered_of]
    exact mt List.length_eq_zero_iff.mp hsome
  rcases List.eq_nil_or_concat fs with rfl | ⟨front, f, rfl⟩
  · exact absurd rfl hsome
  · rw [List.concat_eq_append] at hsome hdelivered ⊢
    have hlines : (of (front ++ [f])).linesRead ≠ 0 := by
      rw [linesRead_of, List.length_append]
      exact Nat.succ_ne_zero _
    rw [atEnd, if_neg hlines, if_neg hdelivered, skipped_of_concat, List.getLast?_concat]
    cases f <;> simp [Finding.delivers]

end Tally

theorem getElem?_dumpRecords {fs : List Finding} (hsome : reports fs ≠ []) (i : Nat) :
    (dumpRecords fs)[i]? = (reports fs)[i]?.map fun b =>
      if i + 1 = (reports fs).length ∧ fs.getLast? ≠ some .outside then b.asLast else b := by
  have hfs : fs ≠ [] := by
    rintro rfl
    exact hsome rfl
  rw [dumpRecords, if_neg hfs, if_neg hsome]
  by_cases hlast : fs.getLast? = some .outside
  · rw [if_pos hlast]
    simp [hlast]
  · rw [if_neg hlast, getElem?_closeLast]
    simp [hlast]

/-- The pulls of a finite dump are its records, and then nothing. -/
theorem pulls_of_reports {resource : Resource} {fs : List Finding}
    {a : Nat → Decoded (Decoder S) String} {p : Nat → Pull String}
    (hpulls : FinitePulls resource a p) (hends : EndsAt a (reports fs).length)
    (hreport : ∀ i < (reports fs).length, (reports fs)[i]? = some (a i).body)
    (hend : ((a (reports fs).length).outcome, (a (reports fs).length).body) =
      (Tally.of fs).atEnd .blank) (i : Nat) :
    p i = ((dumpRecords fs).map fun b => Pull.ok ⟨resource.origin, b⟩)[i]?.getD
      (.endOfStream none) := by
  by_cases hnone : reports fs = []
  -- Without a report the first answer is the end, and a record of its own.
  · have hsingle (b : Body String) (hbody : (a 0).body = b)
        (hp : p i = if i ≤ 0 then .ok ⟨resource.origin, (a i).body⟩ else .endOfStream none) :
        p i = ([b].map fun b => Pull.ok ⟨resource.origin, b⟩)[i]?.getD (.endOfStream none) := by
      rw [hp]
      cases i with
      | zero => rw [if_pos (Nat.le_refl 0), hbody]; rfl
      | succ i => rw [if_neg (Nat.not_succ_le_zero i)]; rfl
    rw [hnone] at hends hend
    by_cases hfs : fs = []
    · subst hfs
      obtain ⟨ho, hb⟩ := Prod.mk.inj (hend.trans Tally.atEnd_nil)
      exact hsingle _ hb (hpulls.reported 0 hends (.inr (.inl ho)) i)
    · obtain ⟨ho, hb⟩ := Prod.mk.inj (hend.trans (Tally.atEnd_of_reports_nil hfs hnone))
      rw [dumpRecords, if_neg hfs, if_pos hnone]
      exact hsingle _ hb (hpulls.reported 0 hends (.inl ho) i)
  · obtain ⟨houtcome, hposition⟩ := Tally.atEnd_of_reports hnone
    rw [← hend] at houtcome hposition
    rw [hpulls.ended _ hends houtcome i, List.getElem?_map, getElem?_dumpRecords hnone]
    by_cases hi : i < (reports fs).length
    · rw [if_pos hi, hreport i hi]
      simp only [Option.map_some, Option.getD_some, hposition]
    · rw [if_neg hi, List.getElem?_eq_none (Nat.le_of_not_lt hi)]
      rfl

/-- The records of a finite dump over any medium that holds its text. -/
theorem pulls_of_holds {S ω : Type} [Medium S] {F : Format ω (Decoder S) String}
    {policy : RetryPolicy} {resource : Resource} {filters : Filters} {w : ω} {medium : S}
    {text : List Char} (hdecoder : F.toDecoder = decoder S) (hfinite : resource.isLive = false)
    (haccepts : filters.acceptsResource resource = true)
    (hready : Opener.ready? F policy resource w = some (.ofMedium medium resource filters))
    (hholds : Medium.Holds medium text) (n : Nat) :
    (Reader.start resource policy w).pulls F n =
      (((dumpRecords (findings filters.interval (lines false text))).map fun b =>
        Pull.ok ⟨resource.origin, b⟩) ++ List.replicate n (Pull.endOfStream none)).take n := by
  have hI : Medium.Preserved fun _ : S => True := fun _ _ _ _ _ => trivial
  have hstands := stands_ofMedium (I := fun _ => True) trivial hholds resource filters
  have hlive : (Task.of resource filters).live = false := hfinite
  have hends := endsAt_reports resource.origin hI haccepts hstands
  have hend := answer_end resource.origin hI haccepts hstands
  have hreport (i : Nat) (hi) :=
    (answer_report resource.origin hI haccepts hstands (i := i) hi).2.2
  rw [hlive] at hends hend hreport
  rw [Reader.pulls_ready hready, hdecoder]
  exact map_range_eq_take
    (pulls_of_reports (Lookahead.finitePulls_opened hfinite) hends hreport hend) n

end Ascii

namespace Reader

open Ascii

/-- Pulls of a file give one record for every line of its text that the interval lets through and
for every line that is no record, in the order of the file, and then the end of the stream. -/
theorem pulls_finite_file {t : FileTree} {resource : Resource} {filters : Filters}
    {policy : RetryPolicy} {text : List Char} (hfinite : resource.isLive = false)
    (haccepts : filters.acceptsResource resource = true)
    (hfile : t.HoldsText (pathOf resource.url) text) (n : Nat) :
    (start resource policy t).pulls (fileFormat resource filters) n =
      (((dumpRecords (findings filters.interval (lines false text))).map fun b =>
        Pull.ok ⟨resource.origin, b⟩) ++ List.replicate n (Pull.endOfStream none)).take n := by
  obtain ⟨f, -, hholds, hready⟩ := ready?_fileFormat filters policy hfile
  exact pulls_of_holds rfl hfinite haccepts hready hholds n

/-- A file of two records with a blank line and a line that is no record in between. -/
theorem pulls_finite_file_four_lines :
    let resource : Resource :=
      { url := "dump", project := "p", collector := "c", recordType := .ribs, initialTime := 0 }
    let bytes := (Text.Utf8.encode "10|a\n\n?\n20|b".toList).toArray
    let t := (FileTree.empty 0).add 0 "dump" (.file bytes 0)
    (start resource {} t).pulls (fileFormat resource {}) 4 =
      [.ok ⟨resource.origin, { sec := 10, payload := some "a" }⟩,
        .ok ⟨resource.origin, { status := .corruptedRecord, position := .middle, sec := 10 }⟩,
        .ok ⟨resource.origin, { position := .last, sec := 20, payload := some "b" }⟩,
        .endOfStream none] :=
  (pulls_finite_file rfl rfl ⟨1, _, _, rfl, rfl, rfl⟩ 4).trans rfl

end Reader
end RoutingDump
