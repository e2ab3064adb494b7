import RoutingDump.Proofs.Ascii.Decoding

/-!
# What a call takes in

A call of the decoder reads line after line until one of them comes to an answer, the file ends or
a read fails. Nothing is assumed of the medium here. Still the answer says what the call has met:
it is `ok` if and only if a line was a record inside the interval, and the time that the decoder
remembers is the time of the last such line.
-/

namespace RoutingDump
namespace Ascii

variable {S : Type}

/-- What one read comes to: a whole line, the end of the file, or a failure. -/
inductive Reading (S : Type) where
  | line (d : Decoder S)
  | ended (d : Decoder S)
  | failed (d : Decoder S) (e : IoError)

namespace Reading

def decoder : Reading S → Decoder S
  | .line d | .ended d | .failed d _ => d

def finish (body : Body String) : Reading S → Decoder.Round S
  | .line d => d.finishLine body
  | .ended d => d.ended body
  | .failed d e => d.failed body e

end Reading

namespace Decoder

variable [Medium S]

def read (d : Decoder S) : Reading S :=
  let read := Medium.readLine d.medium
  let d := { d with medium := read.rest }
  match read.fault, Text.Utf8.decode? read.bytes with
  | some e, none => .failed d e
  | some e, some text => .failed (d.keep text) e
  | none, none => .failed d .notText
  | none, some text =>
    let nothing := text.isEmpty && (d.kept.isEmpty || d.task.live)
    let d := d.keep text
    let unfinished := d.task.live && d.kept.head? != some '\n'
    if nothing || unfinished then .ended d else .line d

theorem round_eq_finish (d : Decoder S) (body : Body String) :
    d.round body = d.read.finish body := by
  unfold round read
  generalize Medium.readLine d.medium = line
  obtain ⟨bytes, fault, rest⟩ := line
  dsimp only
  generalize Text.Utf8.decode? bytes = text
  cases fault with
  | some e => cases text <;> rfl
  | none =>
    cases text with
    | none => rfl
    | some text =>
      dsimp only
      split <;> rfl

/-- Whether a read of `text` comes to the end of the file. -/
def pauses (d : Decoder S) (text : List Char) : Bool :=
  text.isEmpty && (d.kept.isEmpty || d.task.live) ||
    d.task.live && (d.keep text).kept.head? != some '\n'

/-- A read that takes text, by the fault behind it. -/
theorem read_of_text {d : Decoder S} {text : List Char}
    (htext : (Medium.readLine d.medium).bytes = Text.Utf8.encode text) :
    d.read =
      let next := ({ d with medium := (Medium.readLine d.medium).rest } : Decoder S).keep text
      match (Medium.readLine d.medium).fault with
      | some e => .failed next e
      | none => if d.pauses text then .ended next else .line next := by
  unfold read
  dsimp only
  rw [htext, Text.Utf8.decode?_encode]
  cases (Medium.readLine d.medium).fault <;> rfl

theorem decoder_read (d : Decoder S) :
    d.read.decoder.task = d.task ∧ d.read.decoder.tally = d.tally ∧
      d.read.decoder.medium = (Medium.readLine d.medium).rest := by
  unfold read
  dsimp only
  split
  · exact ⟨rfl, rfl, rfl⟩
  · exact ⟨rfl, rfl, rfl⟩
  · exact ⟨rfl, rfl, rfl⟩
  · split <;> exact ⟨rfl, rfl, rfl⟩

def Round.decoder : Round S → Decoder S
  | .answer a => a.state
  | .again d => d

omit [Medium S] in
theorem decoder_finish (reading : Reading S) (body : Body String) :
    (reading.finish body).decoder.task = reading.decoder.task ∧
      (reading.finish body).decoder.medium = reading.decoder.medium := by
  cases reading with
  | line d =>
    show (d.finishLine body).decoder.task = d.task ∧ (d.finishLine body).decoder.medium = d.medium
    unfold finishLine
    dsimp only
    split
    · exact ⟨rfl, rfl⟩
    · split <;> exact ⟨rfl, rfl⟩
  | ended d => exact ⟨rfl, rfl⟩
  | failed d e => exact ⟨rfl, rfl⟩

/-- One read is all that a round takes off the medium. -/
theorem decoder_round (d : Decoder S) (body : Body String) :
    (d.round body).decoder.task = d.task ∧
      (d.round body).decoder.medium = (Medium.readLine d.medium).rest := by
  obtain ⟨htask, hmedium⟩ := decoder_finish d.read body
  obtain ⟨htask', -, hmedium'⟩ := d.decoder_read
  rw [round_eq_finish]
  exact ⟨htask.trans htask', hmedium.trans hmedium'⟩

/-- The finding in the line that the next read ends, if it ends one. -/
def found (d : Decoder S) : Option Finding :=
  match d.read with
  | .line next => Finding.of? next.task.interval next.line
  | .ended _ | .failed _ _ => none

/-- The findings in the lines that a call reads. -/
def met (d : Decoder S) : List Finding :=
  match h : d.round .blank with
  | .answer _ => d.found.toList
  | .again next =>
    have := fuel_round h
    d.found.toList ++ met next
termination_by d.fuel

theorem met_of_answer {d : Decoder S} {a : Decoded (Decoder S) String}
    (h : d.round .blank = .answer a) : d.met = d.found.toList := by
  rw [met]
  split
  · rfl
  · rename_i hround
    rw [h] at hround
    cases hround

theorem met_of_again {d next : Decoder S} (h : d.round .blank = .again next) :
    d.met = d.found.toList ++ next.met := by
  rw [met]
  split <;> rename_i hround <;> rw [h] at hround
  · cases hround
  · cases hround
    rfl

/-- The findings that a call takes in. A resource that the filters refuse is never read. -/
def taken (d : Decoder S) : List Finding := if d.task.accepted then d.met else []

end Decoder

/-- What a round comes to, by the tally before it and the finding in its line. -/
inductive Finds (t : Tally) : Option Finding → Decoder.Round S → Prop
  | blank {next : Decoder S} (htally : next.tally = t) : Finds t none (.again next)
  | outside {next : Decoder S} (htally : next.tally = t.passOver) :
    Finds t (some .outside) (.again next)
  | reported {f : Finding} {r : Result} {a : Decoded (Decoder S) String}
    (hreport : t.report f = some r) (hanswer : (a.outcome, a.body) = r)
    (htally : a.state.tally = t.count f) : Finds t (some f) (.answer a)
  | ended {a : Decoded (Decoder S) String} (hanswer : (a.outcome, a.body) = t.atEnd .blank)
    (htally : a.state.tally = t) : Finds t none (.answer a)
  | failed {a : Decoded (Decoder S) String} (hanswer : a.outcome = .readError)
    (htally : a.state.tally = t) : Finds t none (.answer a)

theorem finds_finishLine (d : Decoder S) :
    Finds d.tally (Finding.of? d.task.interval d.line) (d.finishLine .blank) := by
  cases hfinding : Finding.of? d.task.interval d.line with
  | none =>
    rw [Decoder.finishLine_blank hfinding]
    exact .blank rfl
  | some f =>
    rw [Decoder.finishLine_counted hfinding]
    cases f with
    | record l => exact .reported rfl rfl rfl
    | placeholder => exact .reported rfl rfl rfl
    | outside => exact .outside rfl

theorem finds_round [Medium S] (d : Decoder S) : Finds d.tally d.found (d.round .blank) := by
  have htally := d.decoder_read.2.1
  rw [Decoder.round_eq_finish, Decoder.found, ← htally]
  cases d.read with
  | line next => exact finds_finishLine next
  | ended next => exact .ended rfl rfl
  | failed next e => exact .failed rfl rfl

/-- An answer to a call that met the findings `fs` behind those in the tally `t`. -/
structure Tells (t : Tally) (fs : List Finding) (a : Decoded (Decoder S) String) : Prop where
  ok_iff : a.outcome = .ok ↔ ∃ l, .record l ∈ fs
  time_of_ok : a.outcome = .ok → a.state.tally.lastTime.1 = a.body.sec
  time_kept : a.outcome ≠ .ok → a.state.tally.lastTime = t.lastTime
  placeholder : a.outcome = .corruptedMessage → a.body.sec = t.lastTime.1
  supported : a.outcome ≠ .unsupportedMessage

namespace Tells

variable {t : Tally} {fs : List Finding} {a : Decoded (Decoder S) String}

theorem of_reported {f : Finding} {r : Result} (hreport : t.report f = some r)
    (hanswer : (a.outcome, a.body) = r) (htally : a.state.tally = t.count f) : Tells t [f] a := by
  cases f with
  | outside => cases hreport
  | record l =>
    cases hreport
    obtain ⟨houtcome, hbody⟩ := Prod.mk.inj hanswer
    constructor <;> simp [houtcome, hbody, htally, Tally.count]
  | placeholder =>
    cases hreport
    obtain ⟨houtcome, hbody⟩ := Prod.mk.inj hanswer
    constructor <;> simp [houtcome, hbody, htally, Tally.count, Tally.deliver]

theorem of_none (hnone : a.outcome.endsDump = true ∨ a.outcome = .readError)
    (htally : a.state.tally = t) : Tells t [] a := by
  have hok : a.outcome ≠ .ok := by
    rintro h
    simp [h, Outcome.endsDump] at hnone
  have hplaceholder : a.outcome ≠ .corruptedMessage := by
    rintro h
    simp [h, Outcome.endsDump] at hnone
  have hsupported : a.outcome ≠ .unsupportedMessage := by
    rintro h
    simp [h, Outcome.endsDump] at hnone
  constructor <;> simp [hok, hplaceholder, hsupported, htally]

theorem skip {next : Tally} {f : Option Finding} (h : Tells next fs a)
    (hpassed : ∀ l, f ≠ some (.record l)) (htime : next.lastTime = t.lastTime) :
    Tells t (f.toList ++ fs) a where
  ok_iff := by
    rw [h.ok_iff]
    refine exists_congr fun l => ?_
    have hfront : .record l ∉ f.toList := by simpa using hpassed l
    simp [hfront]
  time_of_ok := h.time_of_ok
  time_kept hok := (h.time_kept hok).trans htime
  placeholder hbad := by rw [h.placeholder hbad, htime]
  supported := h.supported

end Tells

namespace Decoder

variable [Medium S]

theorem tells_answer (d : Decoder S) : Tells d.tally d.met (d.answer .blank) := by
  -- The induction is on the rounds of the call: all but the last pass their line over.
  fun_induction answer d .blank with
  | case1 d a hround =>
    have hfinds := finds_round d
    rw [met_of_answer hround]
    rw [hround] at hfinds
    generalize d.found = found at hfinds ⊢
    cases hfinds with
    | reported hreport hanswer htally => exact .of_reported hreport hanswer htally
    | ended hanswer htally =>
      have hends := Tally.endsDump_atEnd d.tally .blank
      rw [← hanswer] at hends
      exact .of_none (.inl hends) htally
    | failed hanswer htally => exact .of_none (.inr hanswer) htally
  | case2 d next hround hfuel ih =>
    have hfinds := finds_round d
    rw [met_of_again hround]
    rw [hround] at hfinds
    generalize d.found = found at hfinds ⊢
    cases hfinds with
    | blank htally => exact ih.skip nofun (congrArg Tally.lastTime htally)
    | outside htally => exact ih.skip nofun (by rw [htally]; rfl)

theorem tells_decode (d : Decoder S) : Tells d.tally d.taken (d.decode .blank) := by
  unfold decode taken
  by_cases haccepted : d.task.accepted
  · rw [if_pos haccepted, if_pos haccepted]
    exact tells_answer d
  · rw [if_neg haccepted, if_neg haccepted]
    exact .of_none (.inl rfl) rfl

end Decoder
end Ascii
end RoutingDump
