import RoutingDump.Proofs.Ascii.Decoding
import RoutingDump.Proofs.Medium.Interruption
import RoutingDump.Proofs.Stream.Trace

/-!
# Ends of the file inside a live dump

A live dump is read on behind every end of the file. As long as these fall between characters, the
lines come to the same results as if the dump had been read without them. An end of the file inside
a character makes the read fail that meets it.
-/

namespace RoutingDump

variable {σ P : Type}

/-- What an answer reports, unless it is an end of the dump. -/
def Decoded.result? (a : Decoded σ P) : Option (Outcome × Body P × List Notice) :=
  if a.outcome.endsDump then none else some (a.outcome, a.body, a.notices)

namespace Decoder

/-- The results among the first `n` answers. -/
def results (D : Decoder σ P) (origin : Origin) (d : σ) (n : Nat) :
    List (Outcome × Body P × List Notice) :=
  ((List.range n).map (D.answer origin d)).filterMap Decoded.result?

theorem answer_succ (D : Decoder σ P) (origin : Origin) (d : σ) (i : Nat) :
    D.answer origin d (i + 1) = D.answer origin (D.answer origin d 0).state i := by
  rw [answer, after, Function.iterate_succ_apply]
  rfl

theorem results_succ (D : Decoder σ P) (origin : Origin) (d : σ) (n : Nat) :
    D.results origin d (n + 1) =
      (D.answer origin d 0).result?.toList ++
        D.results origin (D.answer origin d 0).state n := by
  have hlater : (List.range n).map (fun i => D.answer origin d (i + 1)) =
      (List.range n).map (D.answer origin (D.answer origin d 0).state) :=
    List.map_congr_left fun i _ => D.answer_succ origin d i
  rw [results, List.range_succ_eq_map, List.map_cons, List.map_map, List.filterMap_cons]
  cases (D.answer origin d 0).result? with
  | none => exact congrArg (List.filterMap _) hlater
  | some result => exact congrArg (fun as => result :: List.filterMap _ as) hlater

end Decoder

namespace Ascii

open Text (Utf8.encode)
open Item (Uncut)

namespace Tally

/-- What a finding comes to behind those in the tally, and what is said about it. -/
def result? (url : String) (t : Tally) (f : Finding) :
    Option (Outcome × Body String × List Notice) :=
  (t.report f).map fun r =>
    (r.1, r.2,
      if r.1 = .corruptedMessage then [.corruptedLine (t.count f).linesRead url] else [])

/-- What findings come to, one after the other. -/
def results (url : String) : Tally → List Finding → List (Outcome × Body String × List Notice)
  | _, [] => []
  | t, f :: fs => (t.result? url f).toList ++ results url (t.count f) fs

theorem results_append (url : String) (t : Tally) (fs gs : List Finding) :
    results url t (fs ++ gs) = results url t fs ++ results url (fs.foldl count t) gs := by
  induction fs generalizing t with
  | nil => rfl
  | cons f fs ih =>
    show (t.result? url f).toList ++ results url (t.count f) (fs ++ gs) = _
    rw [ih, ← List.append_assoc]
    rfl

theorem of_append (fs gs : List Finding) : of (fs ++ gs) = gs.foldl count (of fs) :=
  List.foldl_append

theorem results_singleton (url : String) (t : Tally) (f : Finding) :
    results url t [f] = (t.result? url f).toList := List.append_nil _

end Tally

variable {S : Type} [Medium S]

/-- The decoder has taken in the findings `fs` and goes on with the text `unread` behind the line
that it has begun. -/
structure Resumes (task : Task) (d : Decoder S) (fs : List Finding) (unread : List Char) :
    Prop where
  task_eq : d.task = task
  tally_eq : d.tally = .of fs
  begun : '\n' ∉ d.line
  carries : Medium.Carries d.medium unread

/-- What one round of a live decoder comes to. -/
inductive Rounds (task : Task) (d : Decoder S) (fs : List Finding) (unread : List Char)
    (body : Body String) : Prop
  | line {d' : Decoder S} {l r : List Char} (htext : d.line ++ unread = l ++ '\n' :: r)
      (hl : '\n' ∉ l) (hround : d.round body = d'.finishLine body)
      (hline : d'.line = l ++ ['\n']) (hnext : Resumes task { d' with kept := [] } fs r)
      (hshorter : (Medium.pending d'.medium).length < (Medium.pending d.medium).length)
      (huncut : Uncut (Medium.pending d.medium) ↔ Uncut (Medium.pending d'.medium))
  | pause {d' : Decoder S} {r : List Char} (htext : d.line ++ unread = d'.line ++ r)
      (hround : d.round body = d'.ended body) (hnext : Resumes task d' fs r)
      (hshorter : (Medium.pending d'.medium).length ≤ (Medium.pending d.medium).length - 1)
      (huncut : Uncut (Medium.pending d.medium) ↔ Uncut (Medium.pending d'.medium))
  | cut {d' : Decoder S} (hround : d.round body = d'.failed body .notText)
      (hcut : ¬ Uncut (Medium.pending d.medium))

namespace Decoder

theorem round_of_cut {d : Decoder S} {body : Body String} {bs : List UInt8} {rest : S}
    (hread : Medium.readLine d.medium = { bytes := bs, fault := none, rest := rest })
    (hbytes : Text.Utf8.decode? bs = none) :
    d.round body = ({ d with medium := rest } : Decoder S).failed body .notText := by
  unfold round
  rw [hread]
  dsimp only
  rw [hbytes]

end Decoder

namespace Resumes

variable {task : Task} {d : Decoder S} {fs : List Finding} {unread : List Char}

theorem rounds (h : Resumes task d fs unread) (hlive : task.live = true) (body : Body String) :
    Rounds task d fs unread body := by
  cases h.carries.reads with
  | @line l r rest htext hl hread hrest hshorter huncut =>
    obtain ⟨d', hround, hline, htask, htally, rfl⟩ := Decoder.round_of_line hread body
    have hbegun : '\n' ∉ d.line ++ l := List.not_mem_append h.begun hl
    have htext' : d.line ++ unread = d.line ++ l ++ '\n' :: r := by
      rw [htext, List.append_assoc]
    exact .line htext' hbegun hround hline
      ⟨htask.trans h.task_eq, htally.trans h.tally_eq, List.not_mem_nil, hrest⟩ hshorter huncut
  | @pause l r rest htext hl hread hrest hshorter huncut =>
    obtain ⟨d', hround, hline, hbegun, htask, htally, rfl⟩ :=
      Decoder.round_of_pause h.begun hl hread body
    have htext' : d.line ++ unread = d'.line ++ r := by
      rw [hline, htext, List.append_assoc]
    rw [h.task_eq, hlive, Bool.true_or, if_pos rfl] at hround
    exact .pause htext' hround ⟨htask.trans h.task_eq, htally.trans h.tally_eq, hbegun, hrest⟩
      hshorter huncut
  | cut hread hbytes hcut => exact .cut (Decoder.round_of_cut hread hbytes) hcut

end Resumes

/-- An answer `a` to a decoder `d` that had taken in `fs`: it has taken in `gs` as well, and goes on
with `rest`. -/
structure Resumed (task : Task) (d : Decoder S) (fs : List Finding) (unread : List Char)
    (a : Decoded (Decoder S) String) (gs : List Finding) (rest : List Char) : Prop where
  resumes : Resumes task a.state (fs ++ gs) rest
  findings_eq : findings task.interval (wholeLines (d.line ++ unread)) =
    gs ++ findings task.interval (wholeLines (a.state.line ++ rest))
  results_eq : a.result?.toList = Tally.results task.url (.of fs) gs
  ne_readError : a.outcome ≠ .readError
  shorter : (Medium.pending a.state.medium).length ≤ (Medium.pending d.medium).length - 1
  uncut_iff : Uncut (Medium.pending d.medium) ↔ Uncut (Medium.pending a.state.medium)

/-- A line in front of an answer that came to no result, but may have left a finding. -/
theorem Resumed.skip {task : Task} {d next : Decoder S} {fs skipped gs : List Finding}
    {unread later rest : List Char} {a : Decoded (Decoder S) String}
    (h : Resumed task next (fs ++ skipped) later a gs rest)
    (hfindings : findings task.interval (wholeLines (d.line ++ unread)) =
      skipped ++ findings task.interval (wholeLines (next.line ++ later)))
    (hresults : Tally.results task.url (.of fs) skipped = [])
    (hshorter : (Medium.pending next.medium).length < (Medium.pending d.medium).length)
    (huncut : Uncut (Medium.pending d.medium) ↔ Uncut (Medium.pending next.medium)) :
    Resumed task d fs unread a (skipped ++ gs) rest := by
  refine ⟨?_, ?_, ?_, h.ne_readError, ?_, huncut.trans h.uncut_iff⟩
  · rw [← List.append_assoc]
    exact h.resumes
  · rw [hfindings, h.findings_eq, List.append_assoc]
  · rw [Tally.results_append, hresults, h.results_eq, Tally.of_append]
    rfl
  · have := h.shorter
    omega

namespace Resumes

variable {task : Task} {d : Decoder S} {fs : List Finding} {unread : List Char}

theorem count {d' : Decoder S} (h : Resumes task { d with kept := [] } fs unread) (f : Finding)
    (hd' : d' = { d with kept := [], tally := d.tally.count f }) :
    Resumes task d' (fs ++ [f]) unread := by
  subst hd'
  refine ⟨h.task_eq, ?_, h.begun, h.carries⟩
  have htally : d.tally = .of fs := h.tally_eq
  rw [Tally.of_concat, ← htally]

/-- The induction is on the items that are left, of which every line uses up some. -/
theorem answer (hlive : task.live = true) (h : Resumes task d fs unread) :
    (∃ gs rest, Resumed task d fs unread (d.answer .blank) gs rest) ∨
      (d.answer .blank).outcome = .readError ∧ ¬ Uncut (Medium.pending d.medium) := by
  generalize hn : (Medium.pending d.medium).length = n
  induction n using Nat.strongRecOn generalizing d fs unread with
  | ind n ih =>
    subst hn
    cases h.rounds hlive .blank with
    | cut hround hcut =>
      rw [Decoder.answer_of_answer hround]
      exact .inr ⟨rfl, hcut⟩
    | @pause d' r htext hround hnext hshorter huncut =>
      rw [Decoder.ended_eq] at hround
      rw [Decoder.answer_of_answer hround]
      have hends := Tally.endsDump_atEnd d'.tally .blank
      refine .inl ⟨[], r, ?_, ?_, ?_, ?_, hshorter, huncut⟩
      · rw [List.append_nil]
        exact hnext
      · rw [htext]
        rfl
      · rw [Decoded.result?, if_pos hends]
        rfl
      · intro hread
        rw [show (d'.tally.atEnd .blank).1 = .readError from hread] at hends
        cases hends
    | @line d' l r htext hl hround hline hnext hshorter huncut =>
      have htask : d'.task = task := hnext.task_eq
      have htally : d'.tally = .of fs := hnext.tally_eq
      have hlines : findings task.interval (wholeLines (d.line ++ unread)) =
          (Finding.of? task.interval (l ++ ['\n'])).toList ++
            findings task.interval (wholeLines r) := by
        rw [htext, ← lines_live, lines_line hl, lines_live, findings_cons]
      cases hfinding : Finding.of? task.interval (l ++ ['\n']) with
      | none =>
        rw [hfinding] at hlines
        rw [Decoder.finishLine_blank (by rw [htask, hline, hfinding])] at hround
        rw [Decoder.answer_of_again hround]
        rw [← List.append_nil fs] at hnext
        refine (ih _ hshorter hnext rfl).imp ?_ (.imp_right huncut.not.mpr)
        rintro ⟨gs, rest, hresumed⟩
        exact ⟨[] ++ gs, rest, hresumed.skip hlines rfl hshorter huncut⟩
      | some f =>
        rw [hfinding] at hlines
        have hcounted := Decoder.finishLine_counted (d := d') (f := f)
          (by rw [htask, hline, hfinding])
        have hcount := hnext.count f rfl
        have hresults := Tally.results_singleton task.url (.of fs) f
        rw [Tally.result?, ← htally] at hresults
        cases hreport : d'.tally.report f with
        | none =>
          rw [hreport] at hcounted hresults
          rw [hcounted] at hround
          rw [Decoder.answer_of_again hround]
          refine (ih _ hshorter hcount rfl).imp ?_ (.imp_right huncut.not.mpr)
          rintro ⟨gs, rest, hresumed⟩
          rw [htally] at hresults
          exact ⟨[f] ++ gs, rest, hresumed.skip hlines hresults hshorter huncut⟩
        | some result =>
          rw [hreport] at hcounted hresults
          dsimp only at hcounted
          rw [hcounted] at hround
          rw [Decoder.answer_of_answer hround]
          obtain ⟨hread, hgoes⟩ := Tally.report_outcome hreport
          refine .inl ⟨[f], r, hcount, hlines, ?_, hread, ?_, huncut⟩
          · rw [Decoded.result?, if_neg (by rw [hgoes]; nofun), ← htally, hresults, htask]
            rfl
          · exact Nat.le_sub_one_of_lt hshorter

theorem decode_eq (h : Resumes task d fs unread) (haccepted : task.accepted = true)
    (origin : Origin) : (decoder S).decode d { origin := origin } = d.answer .blank :=
  Decoder.decode_of_accepted (h.task_eq ▸ haccepted) origin

/-- The answer to the first call of a run. -/
theorem answer_zero (hlive : task.live = true) (haccepted : task.accepted = true)
    (origin : Origin) (h : Resumes task d fs unread) :
    (∃ gs rest, Resumed task d fs unread ((decoder S).answer origin d 0) gs rest) ∨
      ((decoder S).answer origin d 0).outcome = .readError ∧
        ¬ Uncut (Medium.pending d.medium) := by
  have hzero : (decoder S).answer origin d 0 = d.answer .blank := h.decode_eq haccepted origin
  rw [hzero]
  exact h.answer hlive

theorem ne_readError_of_uncut (hlive : task.live = true) (haccepted : task.accepted = true)
    (origin : Origin) (h : Resumes task d fs unread) (huncut : Uncut (Medium.pending d.medium))
    (i : Nat) : ((decoder S).answer origin d i).outcome ≠ .readError := by
  induction i generalizing d fs unread with
  | zero =>
    rcases h.answer_zero hlive haccepted origin with ⟨gs, rest, hresumed⟩ | ⟨-, hcut⟩
    · exact hresumed.ne_readError
    · exact absurd huncut hcut
  | succ i ih =>
    rw [RoutingDump.Decoder.answer_succ]
    rcases h.answer_zero hlive haccepted origin with ⟨gs, rest, hresumed⟩ | ⟨-, hcut⟩
    · exact ih hresumed.resumes (hresumed.uncut_iff.mp huncut)
    · exact absurd huncut hcut

/-- The induction is on the number of items that are left: an answer leaves fewer of them. -/
theorem uncut_of_ne_readError (hlive : task.live = true) (haccepted : task.accepted = true)
    (origin : Origin) (h : Resumes task d fs unread)
    (hnone : ∀ i, ((decoder S).answer origin d i).outcome ≠ .readError) :
    Uncut (Medium.pending d.medium) := by
  obtain ⟨n, hn⟩ : ∃ n, (Medium.pending d.medium).length ≤ n := ⟨_, Nat.le_refl _⟩
  induction n generalizing d fs unread with
  | zero =>
    rw [List.length_eq_zero_iff.mp (Nat.le_zero.mp hn)]
    exact Item.uncut_ofBytes []
  | succ n ih =>
    rcases h.answer_zero hlive haccepted origin with ⟨gs, rest, hresumed⟩ | ⟨hread, -⟩
    · have hshorter := hresumed.shorter
      refine hresumed.uncut_iff.mpr (ih hresumed.resumes (fun i => ?_) (by omega))
      rw [← RoutingDump.Decoder.answer_succ]
      exact hnone (i + 1)
    · exact absurd hread (hnone 0)

/-- The results of a run are those of the findings in front, and of all findings once no item is
left. -/
theorem results (hlive : task.live = true) (haccepted : task.accepted = true) (origin : Origin)
    (h : Resumes task d fs unread) (huncut : Uncut (Medium.pending d.medium)) (n : Nat) :
    ∃ gs, (decoder S).results origin d n = Tally.results task.url (.of fs) gs ∧
      gs <+: findings task.interval (wholeLines (d.line ++ unread)) ∧
      ((Medium.pending d.medium).length ≤ n →
        gs = findings task.interval (wholeLines (d.line ++ unread))) := by
  induction n generalizing d fs unread with
  | zero =>
    refine ⟨[], rfl, List.nil_prefix, fun hempty => ?_⟩
    have hnone : Medium.pending d.medium = [] := List.length_eq_zero_iff.mp (Nat.le_zero.mp hempty)
    have hunread : Utf8.encode unread = [] := by
      rw [← h.carries.bytes_eq, hnone]
      rfl
    have hend : unread = [] := by
      have hdecode := Text.Utf8.decode?_encode unread
      rw [hunread] at hdecode
      exact (Option.some.inj hdecode).symm
    have hlines : lines true d.line = [] := lines_of_not_mem h.begun true
    rw [hend, List.append_nil, ← lines_live, hlines]
    rfl
  | succ n ih =>
    rcases h.answer_zero hlive haccepted origin with ⟨gs, rest, hresumed⟩ | ⟨-, hcut⟩
    · obtain ⟨later, hlater, hprefix, hall⟩ :=
        ih hresumed.resumes (hresumed.uncut_iff.mp huncut)
      refine ⟨gs ++ later, ?_, ?_, fun hn => ?_⟩
      · rw [RoutingDump.Decoder.results_succ, hresumed.results_eq, hlater, Tally.results_append,
          Tally.of_append]
      · rw [hresumed.findings_eq]
        exact (List.prefix_append_right_inj gs).mpr hprefix
      · have hshorter := hresumed.shorter
        rw [hresumed.findings_eq, hall (by omega)]
    · exact absurd huncut hcut

end Resumes

theorem resumes_ofMedium {s : S} {text : List Char} (h : Medium.Carries s text)
    (resource : Resource) (filters : Filters) :
    Resumes (.of resource filters) (.ofMedium s resource filters) [] text :=
  ⟨rfl, rfl, List.not_mem_nil, h⟩

theorem carries_ofBytes (text : List Char) :
    Medium.Carries (Item.ofBytes (Utf8.encode text)) text := by
  refine ⟨fun e hmem => ?_, rfl, Item.bytes_ofBytes _⟩
  obtain ⟨b, -, hb⟩ := List.mem_map.mp hmem
  cases hb

/-- What a live dump of the given text comes to, read from a medium with ends of the file in it. -/
structure Interrupted (s : S) (resource : Resource) (filters : Filters) (origin : Origin)
    (text : List Char) : Prop where
  ne_readError_iff :
    (∀ i, ((decoder S).answer origin (.ofMedium s resource filters) i).outcome ≠ .readError) ↔
      Uncut (Medium.pending s)
  prefix_results : Uncut (Medium.pending s) → ∀ n,
    (decoder S).results origin (.ofMedium s resource filters) n <+:
      Tally.results resource.url {} (findings filters.interval (wholeLines text))
  results_eq : Uncut (Medium.pending s) → ∀ n ≥ (Medium.pending s).length,
    (decoder S).results origin (.ofMedium s resource filters) n =
      Tally.results resource.url {} (findings filters.interval (wholeLines text))
  /-- The same bytes without any end of the file come to the same results. -/
  results_plain : ∀ n ≥ (Medium.pending s).length,
    (decoder (List Item)).results origin
        (.ofMedium (Item.ofBytes (Utf8.encode text)) resource filters) n =
      Tally.results resource.url {} (findings filters.interval (wholeLines text))

theorem live_interrupted {s : S} {resource : Resource} {filters : Filters} {text : List Char}
    (origin : Origin) (hlive : resource.isLive = true)
    (haccepts : filters.acceptsResource resource = true) (h : Medium.Carries s text) :
    Interrupted s resource filters origin text := by
  have hd := resumes_ofMedium h resource filters
  constructor
  case ne_readError_iff =>
    exact ⟨hd.uncut_of_ne_readError hlive haccepts origin,
      hd.ne_readError_of_uncut hlive haccepts origin⟩
  case prefix_results =>
    intro huncut n
    obtain ⟨gs, hgs, ⟨later, hlater⟩, -⟩ := hd.results hlive haccepts origin huncut n
    have hall : findings filters.interval (wholeLines text) = gs ++ later := hlater.symm
    rw [hgs, hall, Tally.results_append]
    exact List.prefix_append _ _
  case results_eq =>
    intro huncut n hn
    obtain ⟨gs, hgs, -, hall⟩ := hd.results hlive haccepts origin huncut n
    rw [hgs, hall hn]
    rfl
  case results_plain =>
    intro n hn
    have hplain := resumes_ofMedium (carries_ofBytes text) resource filters
    have hlength : (Medium.pending (Item.ofBytes (Utf8.encode text))).length ≤ n := by
      show (Item.ofBytes _).length ≤ n
      rw [Item.ofBytes, List.length_map, ← h.bytes_eq]
      exact Nat.le_trans (List.length_filterMap_le _ _) hn
    obtain ⟨gs, hgs, -, hall⟩ :=
      hplain.results hlive haccepts origin (Item.uncut_ofBytes _) n
    rw [hgs, hall hlength]
    rfl

/-- The end of the file in front of a character of two bytes. -/
theorem live_interrupted_between_characters :
    let resource : Resource :=
      { url := "feed", project := "p", collector := "c", recordType := .updates, initialTime := 0
        extent := .forever }
    let items : List Item :=
      Item.ofBytes (Utf8.encode "10|".toList) ++
        .endOfFile :: Item.ofBytes (Utf8.encode "é\n".toList)
    Uncut items ∧ Interrupted items resource {} resource.origin "10|é\n".toList := by
  intro resource items
  have huncut : Uncut items :=
    (Item.uncut_append (Item.bytes_ofBytes _) (Item.endOfFile_not_mem_ofBytes _) _).mpr
      ((Item.uncut_endOfFile _).mpr (Item.uncut_ofBytes _))
  have hfaultless : ∀ e, .fault e ∉ Medium.pending items := by
    intro e
    show .fault e ∉ items
    simp [items, Item.ofBytes]
  exact ⟨huncut, live_interrupted resource.origin rfl rfl ⟨hfaultless, rfl, rfl⟩⟩

/-- The end of the file inside a character of two bytes: the first call fails. -/
theorem live_interrupted_inside_character :
    let resource : Resource :=
      { url := "feed", project := "p", collector := "c", recordType := .updates, initialTime := 0
        extent := .forever }
    let items : List Item :=
      [.byte 0x31, .byte 0x30, .byte 0x7c, .byte 0xc3, .endOfFile, .byte 0xa9, .byte 0x0a]
    Medium.Carries items "10|é\n".toList ∧
      ((decoder (List Item)).answer resource.origin (.ofMedium items resource {}) 0).outcome =
        .readError := by
  intro resource items
  have hfaultless : ∀ e, .fault e ∉ Medium.pending items := by
    intro e
    show .fault e ∉ items
    simp [items]
  refine ⟨⟨hfaultless, rfl, rfl⟩, ?_⟩
  obtain ⟨rest, hread, -⟩ := Medium.readLine_bytes_endOfFile (s := items)
    (l := [0x31, 0x30, 0x7c, 0xc3]) (by decide) rfl
  have hround : (Decoder.ofMedium items resource {}).round .blank = _ :=
    Decoder.round_of_cut hread (by decide)
  show ((Decoder.ofMedium items resource {}).answer .blank).outcome = _
  rw [Decoder.answer_of_answer hround]

end Ascii
end RoutingDump
