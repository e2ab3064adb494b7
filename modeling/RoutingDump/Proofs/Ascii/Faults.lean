import RoutingDump.Proofs.Ascii.ByteDump
import RoutingDump.Proofs.Ascii.Taken
import RoutingDump.Proofs.Medium.Faults

/-!
# Dumps with faults in them

A read that fails keeps what it has taken, and the next call goes on from there. So a decoder that
meets faults between characters comes to what it would come to without them: every fault that makes
a read fail costs one call, which says so and leaves the record blank, and all other calls are the
calls on the medium without its faults.
-/

namespace RoutingDump

variable {σ P : Type}

namespace Decoded

/-- All of an answer that a caller sees. -/
def shown (a : Decoded σ P) : Outcome × Body P × List Notice := (a.outcome, a.body, a.notices)

def isReadError (a : Decoded σ P) : Bool := a.outcome = .readError

/-- How many of some calls fail to read. -/
def readErrors (calls : List (Decoded σ P)) : Nat := calls.countP isReadError

def withoutReadErrors (calls : List (Decoded σ P)) : List (Decoded σ P) :=
  calls.filter (!·.isReadError)

theorem readErrors_le (calls : List (Decoded σ P)) : readErrors calls ≤ calls.length :=
  List.countP_le_length

end Decoded

namespace Decoder

theorem answers_congr {D : Decoder σ P} {origin : Origin} {d d' : σ}
    (h : D.decode d { origin := origin } = D.decode d' { origin := origin }) (n : Nat) :
    D.answers origin n d = D.answers origin n d' := by
  cases n with
  | zero => rfl
  | succ n => rw [answers, answers, h]

theorem length_answers (D : Decoder σ P) (origin : Origin) (n : Nat) (d : σ) :
    (D.answers origin n d).length = n := by
  induction n generalizing d with
  | zero => rfl
  | succ n ih => rw [answers, List.length_cons, ih]

theorem answers_eq_map (D : Decoder σ P) (origin : Origin) (n : Nat) (d : σ) :
    D.answers origin n d = (List.range n).map (D.answer origin d) := by
  induction n generalizing d with
  | zero => rfl
  | succ n ih =>
    rw [answers, List.range_succ_eq_map, List.map_cons, List.map_map, ih]
    exact congrArg _ (List.map_congr_left fun i _ => (D.answer_succ origin d i).symm)

end Decoder

namespace Ascii

open Text (Utf8.encode)

variable {S : Type} [Medium S]

namespace Decoder

/-- The decoder in front of what is left of its medium without the faults. -/
def calm (d : Decoder S) : Decoder (List Item) where
  task := d.task
  medium := Medium.calm d.medium
  tally := d.tally
  kept := d.kept

/-- The faults that are still to make reads fail. -/
def failures (d : Decoder S) : List IoError := Item.failures (Medium.pending d.medium)

end Decoder

def Reading.calm : Reading S → Reading (List Item)
  | .line d => .line d.calm
  | .ended d => .ended d.calm
  | .failed d e => .failed d.calm e

namespace Decoder

def calmAnswer (a : Decoded (Decoder S) String) : Decoded (Decoder (List Item)) String where
  outcome := a.outcome
  body := a.body
  state := a.state.calm
  notices := a.notices

def Round.calm : Round S → Round (List Item)
  | .answer a => .answer (calmAnswer a)
  | .again d => .again d.calm

theorem finishLine_calm (d : Decoder S) (body : Body String) :
    d.calm.finishLine body = (d.finishLine body).calm := by
  unfold finishLine
  by_cases htext : (Text.trim d.line).isEmpty
  · have htext' : (Text.trim d.calm.line).isEmpty := htext
    dsimp only
    rw [if_pos htext, if_pos htext']
    rfl
  · have htext' : ¬ (Text.trim d.calm.line).isEmpty := htext
    have htake : d.calm.tally.take d.calm.task.interval (Text.trim d.calm.line) body =
        d.tally.take d.task.interval (Text.trim d.line) body := rfl
    dsimp only
    rw [if_neg htext, if_neg htext', htake]
    cases (d.tally.take d.task.interval (Text.trim d.line) body).1 <;> rfl

omit [Medium S] in
theorem keep_append (d : Decoder S) (text more : List Char) :
    d.keep (text ++ more) = (d.keep text).keep more := by
  rw [keep, keep, keep, List.reverse_append, List.append_assoc]

omit [Medium S] in
/-- Text in front that ends no line makes no difference. -/
theorem pauses_append (d : Decoder S) {text : List Char} (htext : '\n' ∉ text)
    (more : List Char) : d.pauses (text ++ more) = (d.keep text).pauses more := by
  have hempty : (d.keep text).kept.isEmpty = (text.isEmpty && d.kept.isEmpty) := by
    cases text <;> simp [keep]
  have hall : (text ++ more).isEmpty = (text.isEmpty && more.isEmpty) := by
    cases text <;> rfl
  have htask : (d.keep text).task = d.task := rfl
  rw [pauses, pauses, keep_append, htask, hempty, hall]
  by_cases hlast : d.task.live = true ∧ more = [] ∧ text ≠ []
  · -- The last character of the text is what the line ends in, and it is no line feed.
    obtain ⟨hlive, rfl, hsome⟩ := hlast
    have hopen : ((d.keep text).keep []).kept.head? ≠ some '\n' := by
      show (text.reverse ++ d.kept).head? ≠ some '\n'
      rw [List.head?_append_of_ne_nil _ (by simpa using hsome), List.head?_reverse]
      exact fun hfeed => htext (List.mem_of_getLast? hfeed)
    rw [hlive, bne_iff_ne.mpr hopen]
    simp
  · cases hlive : d.task.live with
    | false => cases text <;> cases more <;> simp
    | true =>
      cases text with
      | nil => simp
      | cons c text =>
        cases more with
        | nil => exact absurd ⟨hlive, rfl, List.cons_ne_nil _ _⟩ hlast
        | cons c' more => rfl

/-- What one read of a decoder comes to, next to the read without faults. -/
inductive ReadsOn (d : Decoder S) : Reading S → Prop
  | line {next : Decoder S} (hcalm : d.calm.read = .line next.calm)
      (hfailures : d.failures = next.failures) : ReadsOn d (.line next)
  | ended {next : Decoder S} (hcalm : d.calm.read = .ended next.calm)
      (hfailures : d.failures = next.failures) : ReadsOn d (.ended next)
  | failed {next : Decoder S} {e : IoError} (hcalm : d.calm.read = next.calm.read)
      (hfailures : d.failures = e :: next.failures) : ReadsOn d (.failed next e)

theorem readsOn (d : Decoder S) (h : Medium.Textual d.medium) : ReadsOn d d.read := by
  obtain ⟨text, htakes⟩ := h.takes []
  have hbytes : (Medium.readLine d.medium).bytes = Utf8.encode text := htakes.bytes_eq
  rw [read_of_text hbytes]
  cases hfault : (Medium.readLine d.medium).fault with
  | none =>
    obtain ⟨hcalm, hfailures⟩ := Medium.readOn_calm_of_none hfault
    have hread : Medium.readLine d.calm.medium =
        { bytes := (Medium.readLine d.medium).bytes, fault := none
          rest := Medium.calm (Medium.readLine d.medium).rest } := hcalm
    have hbytes' : (Medium.readLine d.calm.medium).bytes = Utf8.encode text := by
      rw [hread, hbytes]
    have hcalm := read_of_text hbytes'
    rw [hread] at hcalm
    dsimp only at hcalm ⊢
    by_cases hpauses : d.pauses text
    · rw [if_pos hpauses]
      exact .ended (hcalm.trans (if_pos hpauses)) hfailures
    · rw [if_neg hpauses]
      exact .line (hcalm.trans (if_neg hpauses)) hfailures
  | some e =>
    obtain ⟨hcalm, hfailures⟩ := Medium.readOn_calm_of_some h.ending_eq hfault
    have hopen : '\n' ∉ text :=
      htakes.open_of_fault fun hnone => by cases hfault.symm.trans hnone
    -- Without the fault the same read goes on behind the text.
    obtain ⟨more, hmore⟩ := (Medium.textual_calm htakes.rest).takes []
    have hread : Medium.readLine d.calm.medium =
        { Medium.readLine (Medium.calm (Medium.readLine d.medium).rest) with
          bytes := Utf8.encode (text ++ more) } := by
      have hlater : (Medium.readLine (Medium.calm (Medium.readLine d.medium).rest)).bytes =
          Utf8.encode more := hmore.bytes_eq
      rw [Text.Utf8.encode_append, ← hbytes, ← hlater]
      refine hcalm.trans ((Medium.readOn_eq _ _).trans ?_)
      rw [List.reverse_reverse]
      rfl
    have hbytes' : (Medium.readLine d.calm.medium).bytes = Utf8.encode (text ++ more) := by
      rw [hread]
    let next := ({ d with medium := (Medium.readLine d.medium).rest } : Decoder S).keep text
    have hnext : (Medium.readLine next.calm.medium).bytes = Utf8.encode more := hmore.bytes_eq
    suffices hsame : d.calm.read = next.calm.read from .failed hsame hfailures
    rw [read_of_text hbytes', read_of_text hnext, hread, keep_append,
      pauses_append d.calm hopen more]
    rfl

/-- The decoder `next` stands behind `d` in the same text. -/
structure Behind (d next : Decoder S) : Prop where
  task_eq : next.task = d.task
  textual : Medium.Textual next.medium
  shorter : (Medium.pending next.medium).length ≤ (Medium.pending d.medium).length - 1

theorem behind_round {d : Decoder S} (h : Medium.Textual d.medium) (body : Body String) :
    Behind d (d.round body).decoder := by
  obtain ⟨htask, hmedium⟩ := d.decoder_round body
  obtain ⟨text, htakes⟩ := h.takes []
  refine ⟨htask, ?_, ?_⟩
  · rw [hmedium]
    exact htakes.rest
  · rw [hmedium]
    exact Medium.length_pending_readOn [] d.medium

theorem behind_answer {d : Decoder S} (h : Medium.Textual d.medium) (body : Body String) :
    Behind d (d.answer body).state := by
  fun_induction answer d body with
  | case1 d a hround =>
    have hbehind := behind_round h body
    rw [hround] at hbehind
    exact hbehind
  | case2 d next hround hfuel ih =>
    have hbehind := behind_round h body
    rw [hround] at hbehind
    have hlater := ih hbehind.textual
    have hfirst : (Medium.pending next.medium).length ≤ (Medium.pending d.medium).length - 1 :=
      hbehind.shorter
    have hsecond := hlater.shorter
    exact ⟨hlater.task_eq.trans hbehind.task_eq, hlater.textual, by omega⟩

theorem answer_congr {d d' : Decoder S} (h : d.read = d'.read) (body : Body String) :
    d.answer body = d'.answer body := by
  have hround : d.round body = d'.round body := by rw [round_eq_finish, round_eq_finish, h]
  cases hanswer : d'.round body with
  | answer a => rw [answer_of_answer hanswer, answer_of_answer (hround.trans hanswer)]
  | again next => rw [answer_of_again hanswer, answer_of_again (hround.trans hanswer)]

/-- What a call comes to, next to the calls without faults. -/
inductive Continues (d : Decoder S) (a : Decoded (Decoder S) String) : Prop
  | same (hgoes : a.isReadError = false) (hcalm : d.calm.answer .blank = calmAnswer a)
      (hfailures : d.failures = a.state.failures)
  | fault {e : IoError} (hshown : a.shown = (.readError, .blank, [.asciiReadError d.task.url e]))
      (hcalm : d.calm.answer .blank = a.state.calm.answer .blank)
      (hfailures : d.failures = e :: a.state.failures)

theorem failures_finishLine (d : Decoder S) (body : Body String) :
    (d.finishLine body).decoder.failures = d.failures :=
  congrArg (fun medium => Item.failures (Medium.pending medium)) (decoder_finish (.line d) body).2

omit [Medium S] in
theorem isReadError_finishLine {d : Decoder S} {a : Decoded (Decoder S) String}
    (h : d.finishLine .blank = .answer a) : a.isReadError = false := by
  cases hfinding : Finding.of? d.task.interval d.line with
  | none =>
    rw [finishLine_blank hfinding] at h
    cases h
  | some f =>
    rw [finishLine_counted hfinding] at h
    cases hreport : d.tally.report f with
    | none =>
      rw [hreport] at h
      cases h
    | some r =>
      rw [hreport] at h
      cases h
      exact decide_eq_false (Tally.report_outcome hreport).1

omit [Medium S] in
theorem isReadError_ended {d : Decoder S} {a : Decoded (Decoder S) String}
    (h : d.ended .blank = .answer a) : a.isReadError = false := by
  have hends := Tally.endsDump_atEnd d.tally .blank
  rw [ended_eq] at h
  cases h
  refine decide_eq_false fun hread => ?_
  rw [show (d.tally.atEnd .blank).1 = .readError from hread] at hends
  cases hends

theorem round_calm_of_line {d next : Decoder S} (h : d.calm.read = .line next.calm)
    (body : Body String) : d.calm.round body = (next.finishLine body).calm := by
  rw [round_eq_finish, h, ← finishLine_calm]
  rfl

theorem continues_answer {d : Decoder S} (h : Medium.Textual d.medium) :
    Continues d (d.answer .blank) := by
  fun_induction answer d .blank with
  | case1 d a hround =>
    have hreads := readsOn d h
    have htask := d.decoder_read.1
    rw [round_eq_finish] at hround
    generalize d.read = reading at hround hreads htask
    cases hreads with
    | @line next hcalm hfailures =>
      have hcalm := round_calm_of_line hcalm .blank
      have hsame := failures_finishLine next .blank
      change next.finishLine .blank = .answer a at hround
      rw [hround] at hcalm hsame
      exact .same (isReadError_finishLine hround) (answer_of_answer hcalm)
        (hfailures.trans hsame.symm)
    | @ended next hcalm hfailures =>
      have hends := isReadError_ended hround
      cases hround
      refine .same hends (answer_of_answer ?_) hfailures
      rw [round_eq_finish, hcalm]
      rfl
    | @failed next e hcalm hfailures =>
      cases hround
      refine .fault ?_ (answer_congr hcalm .blank) hfailures
      rw [← htask]
      rfl
  | case2 d later hround hfuel ih =>
    have hbehind := behind_round h .blank
    have hreads := readsOn d h
    rw [hround] at hbehind
    rw [round_eq_finish] at hround
    generalize d.read = reading at hround hreads
    cases hreads with
    | @line next hcalm hfailures =>
      have hcalm := round_calm_of_line hcalm .blank
      have hsame := failures_finishLine next .blank
      change next.finishLine .blank = .again later at hround
      rw [hround] at hcalm hsame
      have hanswer : d.calm.answer .blank = later.calm.answer .blank := answer_of_again hcalm
      have hfailures : d.failures = later.failures := hfailures.trans hsame.symm
      cases ih hbehind.textual with
      | same hgoes hlater hleft =>
        exact .same hgoes (hanswer.trans hlater) (hfailures.trans hleft)
      | fault hshown hlater hleft =>
        rw [show later.task = d.task from hbehind.task_eq] at hshown
        exact .fault hshown (hanswer.trans hlater) (hfailures.trans hleft)
    | ended | failed => cases hround

end Decoder

open Decoded (readErrors withoutReadErrors)

/-- What a caller sees of a call that meets a fault. -/
def faultShown (url : String) (e : IoError) : Outcome × Body String × List Notice :=
  (.readError, .blank, [.asciiReadError url e])

/-- Some calls are those in `plain` and, in between, one call for each of the faults in front. -/
structure Interleaves (url : String) (faults : List IoError)
    (plain : Nat → List (Decoded (Decoder (List Item)) String))
    (calls : List (Decoded (Decoder S) String)) : Prop where
  failed : (calls.filter Decoded.isReadError).map Decoded.shown =
    (faults.take (readErrors calls)).map (faultShown url)
  others : (withoutReadErrors calls).map Decoded.shown =
    (plain (calls.length - readErrors calls)).map Decoded.shown

section Run

variable {d : Decoder S} {url : String} {faults : List IoError}
  {plain later : Nat → List (Decoded (Decoder (List Item)) String)}
  {a : Decoded (Decoder S) String} {calls : List (Decoded (Decoder S) String)}

omit [Medium S] in
theorem Interleaves.same (h : Interleaves url faults later calls) (ha : a.isReadError = false)
    (hplain : ∀ n, (plain (n + 1)).map Decoded.shown = a.shown :: (later n).map Decoded.shown) :
    Interleaves url faults plain (a :: calls) := by
  have hcount : readErrors (a :: calls) = readErrors calls := by
    rw [readErrors, List.countP_cons_of_neg (by rw [ha]; nofun)]
    rfl
  have hlength : (a :: calls).length - readErrors calls = calls.length - readErrors calls + 1 := by
    have hle := Decoded.readErrors_le calls
    rw [List.length_cons]
    omega
  constructor
  · rw [List.filter_cons_of_neg (by rw [ha]; nofun), h.failed, hcount]
  · rw [withoutReadErrors, List.filter_cons_of_pos (by rw [ha]; rfl), List.map_cons, hcount,
      hlength, hplain, ← h.others]
    rfl

omit [Medium S] in
theorem Interleaves.fault {e : IoError} (h : Interleaves url faults later calls)
    (ha : a.shown = faultShown url e) (hplain : plain = later) :
    Interleaves url (e :: faults) plain (a :: calls) := by
  have hread : a.isReadError = true := decide_eq_true (congrArg Prod.fst ha)
  have hcount : readErrors (a :: calls) = readErrors calls + 1 := by
    rw [readErrors, List.countP_cons_of_pos hread]
    rfl
  constructor
  · rw [List.filter_cons_of_pos hread, List.map_cons, h.failed, hcount, List.take_succ_cons,
      List.map_cons, ha]
  · rw [withoutReadErrors, List.filter_cons_of_neg (by rw [hread]; nofun), hcount,
      List.length_cons, Nat.add_sub_add_right, hplain]
    exact h.others

namespace Decoder

theorem interleaves (haccepted : d.task.accepted = true) (h : Medium.Textual d.medium)
    (origin : Origin) (n : Nat) :
    Interleaves d.task.url d.failures (fun k => (decoder (List Item)).answers origin k d.calm)
      ((decoder S).answers origin n d) := by
  induction n generalizing d with
  | zero => exact ⟨rfl, rfl⟩
  | succ n ih =>
    have hdecode := decode_of_accepted haccepted origin
    have hcalm := decode_of_accepted (d := d.calm) haccepted origin
    have hbehind := behind_answer h .blank
    have hlater := ih (hbehind.task_eq ▸ haccepted) hbehind.textual
    rw [RoutingDump.Decoder.answers, hdecode]
    rw [hbehind.task_eq] at hlater
    cases continues_answer h with
    | same hgoes hsame hfailures =>
      rw [hfailures]
      refine hlater.same hgoes fun k => ?_
      rw [RoutingDump.Decoder.answers, hcalm, hsame]
      rfl
    | fault hshown hsame hfailures =>
      rw [hfailures]
      refine hlater.fault hshown (funext fun k => RoutingDump.Decoder.answers_congr ?_ k)
      rw [hcalm, hsame]
      exact (decode_of_accepted (d := (d.answer .blank).state.calm)
        (hbehind.task_eq ▸ haccepted) origin).symm

/-- The calls come behind all of the faults. -/
theorem readErrors_answers (haccepted : d.task.accepted = true) (h : Medium.Textual d.medium)
    (origin : Origin) {n : Nat} (hn : (Medium.pending d.medium).length ≤ n) :
    readErrors ((decoder S).answers origin n d) = d.failures.length := by
  induction n generalizing d with
  | zero =>
    rw [failures, List.length_eq_zero_iff.mp (Nat.le_zero.mp hn)]
    rfl
  | succ n ih =>
    have hbehind := behind_answer h .blank
    have hshorter := hbehind.shorter
    have hlater := ih (hbehind.task_eq ▸ haccepted) hbehind.textual (by omega)
    rw [RoutingDump.Decoder.answers, decode_of_accepted haccepted]
    cases continues_answer h with
    | same hgoes hsame hfailures =>
      rw [hfailures, ← hlater, readErrors, List.countP_cons_of_neg (by rw [hgoes]; nofun)]
      rfl
    | fault hshown hsame hfailures =>
      have hread : (d.answer .blank).isReadError = true :=
        decide_eq_true (congrArg Prod.fst hshown)
      rw [hfailures, List.length_cons, ← hlater, readErrors, List.countP_cons_of_pos hread]
      rfl

end Decoder
end Run

/-- `n` calls of a decoder over a medium with faults. -/
structure AcrossFaults (s : S) (resource : Resource) (filters : Filters) (origin : Origin)
    (n : Nat) (calls : List (Decoded (Decoder S) String)) : Prop where
  interleaves : Interleaves resource.url (Item.failures (Medium.pending s))
    (fun k => (decoder (List Item)).answers origin k
      (.ofMedium (Item.withoutFaults (Medium.pending s)) resource filters)) calls
  failed_all : (Medium.pending s).length ≤ n →
    readErrors calls = (Item.failures (Medium.pending s)).length
  /-- A finite dump: the segments between line feeds are whole. -/
  finite : resource.isLive = false → .endOfFile ∉ Medium.pending s →
    let segments := segments (Item.bytes (Medium.pending s))
    let k := n - readErrors calls
    (withoutReadErrors calls).map (fun a => (a.outcome, a.body)) =
      (callsFrom filters.interval .first (0, 0) segments ++
        List.replicate k (dumpEnd (segmentFindings filters.interval segments))).take k
  /-- A live dump: the lines are whole, also across ends of the file. -/
  live : resource.isLive = true →
    ∃ text, Item.bytes (Medium.pending s) = Utf8.encode text ∧
      let results := Tally.results resource.url {} (findings filters.interval (wholeLines text))
      (withoutReadErrors calls).filterMap Decoded.result? <+: results ∧
        ((Medium.pending s).length ≤ n →
          (withoutReadErrors calls).filterMap Decoded.result? = results)

omit [Medium S] in
theorem filterMap_result?_of_shown {S' : Type} {calls : List (Decoded (Decoder S) String)}
    {calls' : List (Decoded (Decoder S') String)}
    (h : calls.map Decoded.shown = calls'.map Decoded.shown) :
    calls.filterMap Decoded.result? = calls'.filterMap Decoded.result? := by
  let result? (r : Outcome × Body String × List Notice) : Option _ :=
    if r.1.endsDump then none else some r
  have hshown {T : Type} (as : List (Decoded (Decoder T) String)) :
      as.filterMap Decoded.result? = (as.map Decoded.shown).filterMap result? := by
    rw [List.filterMap_map]
    rfl
  rw [hshown, hshown, h]

theorem answers_of_serves {s : S} {bytes : List UInt8} {resource : Resource} {filters : Filters}
    (origin : Origin) (hfinite : resource.isLive = false)
    (haccepts : filters.acceptsResource resource = true) (h : Medium.Serves s bytes) (k : Nat) :
    (List.range k).map (fun i =>
        let a := (decoder S).answer origin (.ofMedium s resource filters) i
        (a.outcome, a.body)) =
      (callsFrom filters.interval .first (0, 0) (segments bytes) ++
        List.replicate k (dumpEnd (segmentFindings filters.interval (segments bytes)))).take k := by
  have hahead : Ahead (.of resource filters) (.ofMedium s resource filters)
      (segmentFindings filters.interval (segments bytes))
      (callsFrom filters.interval .first (0, 0) (segments bytes)) :=
    ⟨[], bytes, faces_ofMedium h resource filters, rfl, rfl⟩
  exact map_range_eq_take (hahead.answer_eq hfinite haccepts origin) k

theorem results_of_carries {s : S} {text : List Char} {resource : Resource} {filters : Filters}
    (origin : Origin) (hlive : resource.isLive = true)
    (haccepts : filters.acceptsResource resource = true) (h : Medium.Carries s text)
    (huncut : Item.Uncut (Medium.pending s)) (k : Nat) :
    let results := Tally.results resource.url {} (findings filters.interval (wholeLines text))
    (decoder S).results origin (.ofMedium s resource filters) k <+: results ∧
      ((Medium.pending s).length ≤ k →
        (decoder S).results origin (.ofMedium s resource filters) k = results) := by
  obtain ⟨gs, hgs, ⟨later, hlater⟩, hall⟩ :=
    (resumes_ofMedium h resource filters).results hlive haccepts origin huncut k
  have hsplit : findings filters.interval (wholeLines text) = gs ++ later := hlater.symm
  rw [hgs]
  refine ⟨?_, fun hk => ?_⟩
  · rw [hsplit, Tally.results_append]
    exact List.prefix_append _ _
  · rw [hall hk]
    rfl

/-- Faults between characters cost a call each and change no other call. -/
theorem calls_across_faults {s : S} {resource : Resource} {filters : Filters} (origin : Origin)
    (haccepts : filters.acceptsResource resource = true) (h : Medium.Textual s) (n : Nat) :
    AcrossFaults s resource filters origin n
      ((decoder S).answers origin n (.ofMedium s resource filters)) := by
  let d : Decoder S := .ofMedium s resource filters
  have hinterleaves := d.interleaves haccepts h origin n
  have hfailed (hn : (Medium.pending s).length ≤ n) := d.readErrors_answers haccepts h origin hn
  have hothers := hinterleaves.others
  rw [RoutingDump.Decoder.length_answers, RoutingDump.Decoder.answers_eq_map _ _ _ d.calm]
    at hothers
  refine ⟨hinterleaves, hfailed, fun hfinite hend => ?_, fun hlive => ?_⟩
  · have hserves : Medium.Serves (Medium.calm s) (Item.bytes (Medium.pending s)) :=
      ⟨Item.withoutFaults_eq_ofBytes hend, rfl⟩
    have hresults := congrArg (List.map fun r => (r.1, r.2.1)) hothers
    rw [List.map_map, List.map_map, List.map_map] at hresults
    exact hresults.trans (answers_of_serves origin hfinite haccepts hserves _)
  · obtain ⟨text, htext⟩ := h.items.bytes_eq
    have hcarries : Medium.Carries (Medium.calm s) text :=
      ⟨Item.fault_not_mem_withoutFaults _, rfl, (Item.bytes_withoutFaults _).trans htext⟩
    obtain ⟨hfront, hall⟩ := results_of_carries origin hlive haccepts hcarries
      h.items.uncut_withoutFaults (n - readErrors ((decoder S).answers origin n d))
    refine ⟨text, htext, ?_⟩
    dsimp only
    rw [filterMap_result?_of_shown hothers]
    refine ⟨hfront, fun hn => hall ?_⟩
    have hlength := Item.length_withoutFaults_le (Medium.pending s)
    have hleft : readErrors ((decoder S).answers origin n d) =
      (Item.failures (Medium.pending s)).length := hfailed hn
    rw [hleft]
    exact Nat.le_sub_of_add_le (Nat.le_trans hlength hn)

/-- A line cut by two faults and an interruption, the last of them right before the end. -/
theorem calls_across_faults_cut_line :
    let resource : Resource :=
      { url := "feed", project := "p", collector := "c", recordType := .updates, initialTime := 0 }
    let items : List Item :=
      Item.ofBytes (Utf8.encode "10|".toList) ++ .fault (.medium .timedOut "late") ::
        .fault (.medium .interrupted "") :: (Item.ofBytes (Utf8.encode "é".toList) ++
          [.fault (.medium .other "lost")])
    let calls := (decoder (List Item)).answers resource.origin 8 (.ofMedium items resource {})
    readErrors calls = 2 ∧
      (withoutReadErrors calls).map (fun a => (a.outcome, a.body)) =
        (.ok, { sec := 10, payload := some "é" }) ::
          List.replicate 5 (.endOfDump, { position := .last, sec := 10 }) := by
  intro resource items calls
  have htextual : Medium.Textual items :=
    ⟨Item.textual_ofBytes _ (.fault _ (.fault _ (Item.textual_ofBytes _ (.fault _ .nil)))), rfl⟩
  have hcalls : AcrossFaults items resource {} resource.origin 8 calls :=
    calls_across_faults resource.origin rfl htextual 8
  have hfailed : readErrors calls = 2 := hcalls.failed_all (by decide)
  have hwhole := hcalls.finite rfl (by decide)
  rw [hfailed] at hwhole
  refine ⟨hfailed, hwhole.trans ?_⟩
  decide +kernel

end Ascii
end RoutingDump
