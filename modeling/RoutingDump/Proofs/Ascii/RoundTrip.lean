import RoutingDump.Proofs.Ascii.NextTime
import RoutingDump.Proofs.Ascii.Written

/-!
# Dumps that are written again

A dump that was written from lines gives these lines back. Any valid record of any dump, whatever
happens to the dump meanwhile, comes from a line that can be written: between two reads the decoder
has begun a line without a line feed, so what it parses is one trimmed line.
-/

namespace RoutingDump
namespace Ascii

open Text (Utf8.decode? Utf8.encode)

/-- The body comes from a line that can be written. -/
def Written (b : Body String) : Prop := ∃ l : Line, l.Writable ∧ ∃ position, b = l.bodyAt position

theorem Written.asLast {b : Body String} (h : Written b) : Written b.asLast := by
  obtain ⟨l, hl, position, rfl⟩ := h
  exact ⟨l, hl, .last, rfl⟩

variable {S : Type}

/-- What was read is at most one line. -/
def Reading.OneLine : Reading S → Prop
  | .line d => ∃ l, '\n' ∉ l ∧ (d.line = l ∨ d.line = l ++ ['\n'])
  | .ended d | .failed d _ => '\n' ∉ d.line

/-- Text that a read takes: it holds no line feed, or it ends in its only one. -/
theorem oneLine_of_readLine [Medium S] {s : S} {text : List Char}
    (h : Utf8.decode? (Medium.readLine s).bytes = some text) :
    '\n' ∉ text ∨ (Medium.readLine s).fault = none ∧ ∃ l, '\n' ∉ l ∧ text = l ++ ['\n'] := by
  have hmem {l : List Char} (hl : '\n' ∈ l) : Medium.lineFeed ∈ Utf8.encode l :=
    List.mem_flatMap.mpr ⟨'\n', hl, by decide⟩
  rcases Medium.readLine_oneLine s with hnone | ⟨hfault, bs, hbs, hbytes⟩
  · rw [Text.Utf8.decode?_eq_some_iff.mp h] at hnone
    exact .inl fun hfeed => hnone (hmem hfeed)
  · rw [hbytes, Text.Utf8.decode?_lineFeed] at h
    obtain ⟨l, hl, rfl⟩ := Option.map_eq_some_iff.mp h
    rw [Text.Utf8.decode?_eq_some_iff.mp hl] at hbs
    exact .inr ⟨hfault, l, fun hfeed => hbs (hmem hfeed), rfl⟩

namespace Decoder

theorem oneLine_read [Medium S] {d : Decoder S} (h : '\n' ∉ d.line) : d.read.OneLine := by
  unfold read
  dsimp only
  split
  · exact h
  · rename_i e text hfault hdecode
    rcases oneLine_of_readLine hdecode with htext | ⟨hnone, -⟩
    · show '\n' ∉ Decoder.line (keep _ text)
      rw [line_keep]
      exact List.not_mem_append h htext
    · rw [hfault] at hnone
      cases hnone
  · exact h
  · rename_i text hfault hdecode
    rcases oneLine_of_readLine hdecode with htext | ⟨-, l, hl, rfl⟩
    · have hline := List.not_mem_append h htext
      rw [← line_keep d text] at hline
      split
      · exact hline
      · exact ⟨_, hline, .inl rfl⟩
    · -- A read that ends a line never comes to the end of the file.
      rw [if_neg (by simp [keep])]
      refine ⟨d.line ++ l, List.not_mem_append h hl, .inr ?_⟩
      rw [List.append_assoc]
      exact line_keep _ _

end Decoder

/-- The state that an answer leaves, and the records that it may hand out. -/
structure Orderly (a : Decoded (Decoder S) String) : Prop where
  begun : '\n' ∉ a.state.line
  written : a.outcome = .ok → Written a.body
  ok_of_valid : a.body.status = .valid →
    a.outcome = .ok ∨ a.outcome = .endOfDump ∨ a.outcome = .readError

theorem parseLine?_of_record {interval : Option TimeInterval} {line : List Char} {l : Line}
    (h : Finding.of? interval line = some (.record l)) :
    parseLine? (Text.trim line) = some l := by
  unfold Finding.of? Finding.of at h
  dsimp only at h
  split at h
  · cases h
  · split at h
    · cases h
    · rename_i l' hparse
      split at h
      · cases h
        exact hparse
      · cases h

theorem Tally.endOfDump_of_valid (t : Tally) :
    (t.atEnd .blank).2.status = .valid → (t.atEnd .blank).1 = .endOfDump := by
  unfold atEnd
  split
  · nofun
  · split
    · nofun
    · exact fun _ => rfl

namespace Decoder

theorem finishLine_orderly {d : Decoder S} {l : List Char} (hl : '\n' ∉ l)
    (hline : d.line = l ∨ d.line = l ++ ['\n']) :
    match d.finishLine .blank with
    | .answer a => Orderly a
    | .again next => '\n' ∉ next.line := by
  have htrim : Text.trim d.line = Text.trim l := by
    rcases hline with hline | hline
    · rw [hline]
    · rw [hline, Text.trim_lineFeed]
  cases hfinding : Finding.of? d.task.interval d.line with
  | none =>
    rw [finishLine_blank hfinding]
    exact List.not_mem_nil
  | some f =>
    rw [finishLine_counted hfinding]
    cases f with
    | outside => exact List.not_mem_nil
    | placeholder => exact ⟨List.not_mem_nil, nofun, nofun⟩
    | record line =>
      have hparse := parseLine?_of_record hfinding
      rw [htrim] at hparse
      exact ⟨List.not_mem_nil, fun _ => ⟨line, Line.writable_of_parseLine? hl hparse, _, rfl⟩,
        fun _ => .inl rfl⟩

theorem orderly_answer [Medium S] {d : Decoder S} (h : '\n' ∉ d.line) :
    Orderly (d.answer .blank) := by
  fun_induction answer d .blank with
  | case1 d a hround =>
    have hread := oneLine_read h
    rw [round_eq_finish] at hround
    generalize d.read = reading at hread hround
    cases reading with
    | line next =>
      obtain ⟨l, hl, hline⟩ := hread
      have hfinish := finishLine_orderly hl hline
      change next.finishLine .blank = .answer a at hround
      rw [hround] at hfinish
      exact hfinish
    | ended next =>
      change next.ended .blank = .answer a at hround
      rw [ended_eq] at hround
      cases hround
      refine ⟨hread, fun hok => ?_, fun hvalid =>
        .inr (.inl (next.tally.endOfDump_of_valid hvalid))⟩
      have hends := Tally.endsDump_atEnd next.tally .blank
      rw [show (next.tally.atEnd .blank).1 = .ok from hok] at hends
      cases hends
    | failed next e =>
      cases hround
      refine ⟨hread, fun hok => ?_, fun _ => .inr (.inr rfl)⟩
      cases hok
  | case2 d later hround hfuel ih =>
    have hread := oneLine_read h
    rw [round_eq_finish] at hround
    generalize d.read = reading at hread hround
    cases reading with
    | line next =>
      obtain ⟨l, hl, hline⟩ := hread
      have hfinish := finishLine_orderly hl hline
      change next.finishLine .blank = .again later at hround
      rw [hround] at hfinish
      exact ih hfinish
    | ended | failed => cases hround

theorem orderly_decode [Medium S] {d : Decoder S} (h : '\n' ∉ d.line) :
    Orderly (d.decode .blank) := by
  unfold decode
  by_cases haccepted : d.task.accepted
  · rw [if_pos haccepted]
    exact orderly_answer h
  · rw [if_neg haccepted]
    exact ⟨h, nofun, nofun⟩

end Decoder

/-! ### Valid records of a reader -/

/-- A stream whose decoder has begun at most one line, and whose valid record was written. -/
structure Clean (l : Lookahead (Decoder S) String) : Prop where
  begun : '\n' ∉ l.decoder.line
  waiting : ∀ body, l.waiting = some body → body.status = .valid → Written body

theorem Orderly.clean {a : Decoded (Decoder S) String} (h : Orderly a) (live : Bool)
    (l : Lookahead (Decoder S) String) : Clean (l.absorb live a) where
  begun := h.begun
  waiting body hbody hvalid := by
    have hoffer : a.offer live = some body := hbody
    rw [Lookahead.eq_body_of_offer hoffer] at hvalid ⊢
    have hdelivers : a.outcome.delivers live = true := by
      by_contra hnot
      rw [Decoded.offer, if_neg hnot] at hoffer
      cases hoffer
    rcases h.ok_of_valid hvalid with hok | hend | hread
    · exact h.written hok
    · rw [hend] at hdelivers
      cases hdelivers
    · rw [hread] at hdelivers
      cases hdelivers

/-- The factory gives decoders that have begun no line. -/
def Unread {ω : Type} (F : Format ω (Decoder S) String) : Prop :=
  ∀ w d, (F.attempt w).attempt = .opened d → d.kept = []

theorem unread_fileFormat (resource : Resource) (filters : Filters) :
    Unread (fileFormat resource filters) := by
  intro t d h
  unfold fileFormat openDump at h
  dsimp only at h
  cases hfile : t.openFile (pathOf resource.url) with
  | error e =>
    rw [hfile] at h
    cases h
  | ok file =>
    rw [hfile] at h
    cases h
    rfl

end Ascii

theorem Opener.attempt_of_retry {ω σ P : Type} {F : Format ω σ P} {policy : RetryPolicy}
    {url : String} {gone : Nat → Bool} {left attempt : Nat} {w : ω} {d : σ}
    (h : (retry F policy url gone left attempt w).value.1 = .opened d) :
    ∃ w', (F.attempt w').attempt = .opened d := by
  induction left generalizing attempt w with
  | zero => cases h
  | succ left ih =>
    unfold retry at h
    dsimp only at h
    split at h
    · rename_i decoder hopened
      cases h
      exact ⟨w, hopened⟩
    · cases h
    · split at h
      · exact ih h
      · split at h
        · cases h
        · exact ih h

namespace Ascii

variable {ω S : Type} [Medium S] {F : Format ω (Decoder S) String} {resource : Resource}

/-- A decoder that is ready is as the factory gave it: making records does not change it. -/
theorem attempt_of_ready (hdecoder : F.toDecoder = decoder S) {policy : RetryPolicy} {w : ω}
    {d : Decoder S} (h : Opener.ready? F policy resource w = some d) :
    ∃ w', (F.attempt w').attempt = .opened d := by
  unfold Opener.ready? at h
  split at h
  · rename_i opened hopened
    rw [hdecoder] at h
    cases h
    exact Opener.attempt_of_retry hopened
  · cases h
  · cases h
  · cases h

theorem clean_fresh (hF : Decodes F) (hunread : Unread F) {policy : RetryPolicy} {w : ω}
    {d : Decoder S} (h : Opener.ready? F policy resource w = some d) : '\n' ∉ d.line := by
  obtain ⟨w', hattempt⟩ := attempt_of_ready hF.decoder_eq h
  rw [Decoder.line, hunread w' d hattempt]
  exact List.not_mem_nil

theorem inductive_clean (hF : Decodes F) (hunread : Unread F) (resource : Resource) :
    F.Inductive resource fun l _ => Clean l where
  fresh _ _ _ h := ⟨clean_fresh hF hunread h, nofun⟩
  absorbed l _ _ h := by
    rw [hF.decoder_eq]
    exact (Decoder.orderly_decode h.begun).clean _ l
  ended _ _ _ h := ⟨h.begun, nofun⟩

/-- The pulls among all that happens. -/
def pulled (F : Format ω (Decoder S) String) (r : Reader ω (Decoder S) String) :
    List (Happening ω S) → List (Pull String)
  | [] => []
  | .call c :: hs =>
    let ⟨_, answer, r⟩ := r.call F c
    answer.pull?.toList ++ pulled F r hs
  | .change before after :: hs => pulled F (r.disturb before (Decoder.onMedium after)) hs

omit [Medium S] in
/-- What a pull hands out of a settled reader. -/
theorem written_of_next {os : List Outcome} {r : Reader ω (Decoder S) String}
    (hsettled : r.Settled) (h : r.Upholds resource (fun l _ => Clean l) os)
    {record : Record String} (hrecord : (r.next F).value.1.record? = some record)
    (hvalid : record.body.status = .valid) : Written record.body := by
  cases h with
  | opening => rcases hsettled with ⟨s, hs⟩ | ⟨crashed, hfailed⟩ <;> contradiction
  | failed =>
    cases hrecord
    cases hvalid
  | @streaming policy s hstamped hresource hclean =>
    rw [Reader.next_streaming rfl] at hrecord
    have hpull := (Stream.lookahead_advance (D := F.toDecoder) hstamped).1
    rw [hpull] at hrecord
    obtain ⟨body, hwaiting, hbody⟩ :=
      Lookahead.waiting_of_pull (Lookahead.pull_of_record? hrecord)
    rcases hbody with hbody | hbody
    · rw [hbody] at hvalid ⊢
      exact hclean.waiting body hwaiting hvalid
    · rw [hbody] at hvalid ⊢
      exact (hclean.waiting body hwaiting hvalid).asLast

theorem written_of_call (hF : Decodes F) (hunread : Unread F) {os : List Outcome}
    {r : Reader ω (Decoder S) String} (h : r.Upholds resource (fun l _ => Clean l) os)
    {c : ReaderCall} {p : Pull String} (hp : (r.call F c).value.1.pull? = some p)
    {record : Record String} (hrecord : p.record? = some record)
    (hvalid : record.body.status = .valid) : Written record.body := by
  have hresolved := Reader.upholds_resolve hF.reticent (inductive_clean hF hunread resource) h
  have hsettled := Reader.settled_resolve (F := F) r
  cases c with
  | openWait | nextTime | resource => cases hp
  | next =>
    rw [Reader.value_call_resolve r (by nofun)] at hp
    cases hp
    exact written_of_next hsettled hresolved hrecord hvalid

/-- The induction is on all that happens, over every reader that it starts from. -/
theorem written_of_pulled (hF : Decodes F) (hunread : Unread F) {os : List Outcome}
    {r : Reader ω (Decoder S) String} (h : r.Upholds resource (fun l _ => Clean l) os)
    (hs : List (Happening ω S)) :
    ∀ p ∈ pulled F r hs, ∀ record, p.record? = some record → record.body.status = .valid →
      Written record.body := by
  induction hs generalizing r os with
  | nil => exact fun p hp => absurd hp List.not_mem_nil
  | cons happening hs ih =>
    cases happening with
    | call c =>
      have hnext :=
        Reader.upholds_format_call hF.reticent (inductive_clean hF hunread resource) h c
      intro p hp record hrecord hvalid
      rcases List.mem_append.mp hp with hp | hp
      · exact written_of_call hF hunread h (Option.mem_toList.mp hp) hrecord hvalid
      · exact ih hnext p hp record hrecord hvalid
    | change before after =>
      exact ih (upholds_onMedium (fun _ _ _ hclean => ⟨hclean.begun, hclean.waiting⟩) h before
        after)

end Ascii

/-- The line of a valid record. -/
def Pull.validLine? (p : Pull String) : Option Ascii.Line :=
  match p.record? with
  | none => none
  | some record =>
    if record.body.status = .valid then
      record.body.payload.map fun text => ⟨record.body.sec, record.body.usec, text.toList⟩
    else none

namespace Ascii

theorem validLine?_bodyAt (origin : Origin) (l : Line) (position : Position) :
    (Pull.ok ⟨origin, l.bodyAt position⟩).validLine? = some l := by
  show some (⟨l.sec, l.usec, (String.ofList l.body).toList⟩ : Line) = some l
  rw [String.toList_ofList]

theorem writable_of_validLine? {p : Pull String} {l : Line}
    (hp : ∀ record, p.record? = some record → record.body.status = .valid → Written record.body)
    (h : p.validLine? = some l) : l.Writable := by
  unfold Pull.validLine? at h
  split at h
  · cases h
  · rename_i record hrecord
    split at h
    · rename_i hvalid
      obtain ⟨l', hl', position, hbody⟩ := hp record hrecord hvalid
      rw [hbody] at h
      change (some (⟨l'.sec, l'.usec, (String.ofList l'.body).toList⟩ : Line)) = some l at h
      rw [String.toList_ofList] at h
      cases h
      exact hl'
    · cases h

theorem validLines_written (origin : Origin) (ls : List Line) (n : Nat) :
    (((writtenRecords ls).map fun b => Pull.ok ⟨origin, b⟩).take n).filterMap Pull.validLine? =
      ls.take n := by
  have hlines : ((writtenRecords ls).map fun b => Pull.ok ⟨origin, b⟩).map Pull.validLine? =
      ls.map some := by
    refine List.ext_getElem? fun i => ?_
    rw [writtenRecords, List.map_map, List.getElem?_map, List.getElem?_mapIdx, List.getElem?_map,
      Option.map_map]
    exact congrArg (Option.map · ls[i]?) (funext fun l => validLine?_bodyAt origin l _)
  have hfilter (ps : List (Pull String)) :
      ps.filterMap Pull.validLine? = (ps.map Pull.validLine?).filterMap id := by
    rw [List.filterMap_map]
    rfl
  rw [hfilter, List.map_take, hlines, ← List.map_take, List.filterMap_map]
  exact List.filterMap_some

/-- A finite reader without filters gives back the lines of a dump. -/
structure ReadsBack (t : FileTree) (resource : Resource) (policy : RetryPolicy)
    (ls : List Line) : Prop where
  pulls_eq : ls ≠ [] → ∀ n, (Reader.start resource policy t).pulls (fileFormat resource {}) n =
    (((writtenRecords ls).map fun b => Pull.ok ⟨resource.origin, b⟩) ++
      List.replicate n (Pull.endOfStream none)).take n
  lines_eq : ∀ n, ((Reader.start resource policy t).pulls (fileFormat resource {}) n).filterMap
    Pull.validLine? = ls.take n

theorem readsBack {t : FileTree} {resource : Resource} {policy : RetryPolicy} {ls : List Line}
    (hls : ∀ l ∈ ls, l.Writable) (hfinite : resource.isLive = false)
    (hfile : t.HoldsText (pathOf resource.url) (dumpText ls)) :
    ReadsBack t resource policy ls := by
  obtain ⟨f, -, hholds, hready⟩ := ready?_fileFormat {} policy hfile
  have hpulls := pulls_of_holds (F := fileFormat resource {}) rfl hfinite rfl hready hholds
  have hfindings : findings ({} : Filters).interval (lines false (dumpText ls)) =
      ls.map .record := findings_dumpText hls
  rw [hfindings] at hpulls
  refine ⟨fun hsome n => ?_, fun n => ?_⟩
  · rw [hpulls, dumpRecords_written hsome]
  · rw [hpulls, filterMap_take_replicate rfl]
    by_cases hnil : ls = []
    · subst hnil
      rw [List.take_nil]
      refine List.filterMap_eq_nil_iff.mpr fun p hp => ?_
      have hempty :
          p ∈ [Pull.ok ⟨resource.origin, { status := .emptySource, position := .last }⟩] :=
        List.mem_of_mem_take hp
      rw [List.mem_singleton.mp hempty]
      rfl
    · rw [dumpRecords_written hnil]
      exact validLines_written resource.origin ls n

end Ascii

namespace Reader

open Ascii

variable {ω S : Type} [Medium S] {F : Format ω (Ascii.Decoder S) String}

/-- Lines that are written come back. Every valid record of a dump, at any moment in the life of
its reader, comes from such a line, so the valid records can be written and read again. -/
theorem dump_round_trip (hF : Decodes F) (hunread : Unread F) (policy : RetryPolicy)
    (resource : Resource) (w : ω) (hs : List (Happening ω S)) {file : Resource}
    (hfinite : file.isLive = false) (again : RetryPolicy) (t : FileTree) :
    let given := pulled F (start resource policy w) hs
    let read := given.filterMap Pull.validLine?
    (∀ p ∈ given, ∀ record, p.record? = some record → record.body.status = .valid →
        Written record.body) ∧
      (t.HoldsText (pathOf file.url) (dumpText read) → ReadsBack t file again read) ∧
      ∀ ls : List Line, (∀ l ∈ ls, l.Writable) →
        t.HoldsText (pathOf file.url) (dumpText ls) → ReadsBack t file again ls := by
  intro given read
  have hstart : (start resource policy w : Reader ω (Ascii.Decoder S) String).Upholds resource
      (fun l _ => Clean l) [] := .opening rfl
  have hgiven := written_of_pulled hF hunread hstart hs
  have hread : ∀ l ∈ read, l.Writable := by
    intro l hl
    obtain ⟨p, hp, hline⟩ := List.mem_filterMap.mp hl
    exact writable_of_validLine? (hgiven p hp) hline
  exact ⟨hgiven, readsBack hread hfinite, fun ls hls => readsBack hls hfinite⟩

/-- Bars, dots and a blank in front belong to a body, a blank behind it does not. -/
theorem dump_round_trip_mixed :
    let feed : Resource :=
      { url := "feed", project := "p", collector := "c", recordType := .updates, initialTime := 0 }
    let copy : Resource := { feed with url := "copy" }
    let given := (Text.Utf8.encode "7| a.b|c \n?\n3.5|".toList).toArray
    let written := (Text.Utf8.encode "7.000000| a.b|c\n3.000005|\n".toList).toArray
    let t := ((FileTree.empty 0).add 0 "feed" (.file given 0)).add 0 "copy" (.file written 0)
    let next : Happening FileTree OpenFile := .call .next
    let pulls := pulled (fileFormat feed {}) (start feed {} t) [next, next, next]
    let read : List Line := [⟨7, 0, " a.b|c".toList⟩, ⟨3, 5, []⟩]
    pulls.filterMap Pull.validLine? = read ∧
      ReadsBack t copy {} read := by
  intro feed copy given written t next pulls read
  have hread : pulls.filterMap Pull.validLine? = read := by decide +kernel
  have hcopy : copy.isLive = false := rfl
  have hpath : t.resolveString (pathOf "copy") = .ok 2 := rfl
  have hfile : t.HoldsText (pathOf copy.url) (dumpText read) := ⟨2, written, 0, hpath, rfl, rfl⟩
  have hback : t.HoldsText (pathOf copy.url) (dumpText (pulls.filterMap Pull.validLine?)) →
      ReadsBack t copy {} (pulls.filterMap Pull.validLine?) :=
    (dump_round_trip (decodes_fileFormat feed {}) (unread_fileFormat feed {}) {} feed t
      [next, next, next] hcopy {} t).2.1
  rw [hread] at hback
  exact ⟨hread, hback hfile⟩

end Reader
end RoutingDump
