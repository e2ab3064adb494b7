import RoutingDump.Proofs.Ascii.Taken
import RoutingDump.Proofs.Ascii.TextDump
import RoutingDump.Proofs.Reader.Outcomes
import RoutingDump.Proofs.Stream.Slots

/-!
# The time of the next record

The time that a reader shows is the time of the record that it hands out next. A stream does not
look at the time of a placeholder, so this rests on its decoder: a placeholder takes over the time
that the decoder remembers, and an active stream shows no other. `Timed` is that invariant. It
holds whatever becomes of the medium between calls.
-/

namespace RoutingDump
namespace Ascii

variable {ω S : Type}

/-- What happens to a reader of a dump: somebody calls it, or others change what it opens or
reads. -/
inductive Happening (ω S : Type) where
  | call (c : ReaderCall)
  | change (before : ω → ω) (after : S → S)

def Decoder.onMedium (f : S → S) (d : Decoder S) : Decoder S := { d with medium := f d.medium }

/-- The reader after all that happens, with the events on the way. -/
def history (F : Format ω (Decoder S) String) (r : Reader ω (Decoder S) String) :
    List (Happening ω S) → Traced String (Reader ω (Decoder S) String)
  | [] => { events := [], value := r }
  | .call c :: hs =>
    let ⟨events, _, r⟩ := r.call F c
    let ⟨later, r⟩ := history F r hs
    { events := events ++ later, value := r }
  | .change before after :: hs => history F (r.disturb before (Decoder.onMedium after)) hs

/-- The format decodes ascii dumps, wherever its factory finds them. -/
structure Decodes [Medium S] (F : Format ω (Decoder S) String) : Prop where
  decoder_eq : F.toDecoder = decoder S
  attempt : ∀ w, ∀ n ∈ (F.attempt w).notices, n.reporter ≠ .buffer

theorem decodes_fileFormat (resource : Resource) (filters : Filters) :
    Decodes (fileFormat resource filters) where
  decoder_eq := rfl
  attempt t n hn := by
    rw [reporter_attempt t n hn]
    nofun

theorem decodes_mediumFormat [Medium S] (resource : Resource) (filters : Filters) :
    Decodes (mediumFormat S resource filters) where
  decoder_eq := rfl
  attempt _ _ hn := absurd hn List.not_mem_nil

theorem reticent_decoder [Medium S] : (decoder S).Reticent := by
  intro d record n hn
  rw [Decoder.reporter_decode d record.body n hn]
  nofun

theorem Decodes.reticent [Medium S] {F : Format ω (Decoder S) String} (h : Decodes F) :
    F.Reticent where
  attempt := h.attempt
  decode := by
    rw [h.decoder_eq]
    exact reticent_decoder

end Ascii

theorem Outcome.tellsTime_eq_false_iff {live : Bool} {o : Outcome} :
    o.tellsTime live = false ↔ o ≠ .ok ∧ (live = true ∨ o.endsDump = false) := by
  cases o <;> cases live <;> decide

namespace Ascii

variable {S : Type} {live : Bool} {l : Lookahead (Decoder S) String} {os : List Outcome}

/-- What the time shown has to do with the record that waits, with the decoder, and with the
outcomes `os` so far. -/
structure Timed (live : Bool) (l : Lookahead (Decoder S) String) (os : List Outcome) : Prop where
  waiting : ∀ t body, l.nextTime = some t → l.waiting = some body → body.sec = t
  /-- A placeholder that comes next will carry the time shown. -/
  remembered : ∀ t, l.state = .active → l.nextTime = some t → l.decoder.tally.lastTime.1 = t
  unseen : l.nextTime = none ↔ .ok ∉ os ∧ (live = true ∨ ∀ o ∈ os, o.endsDump = false)

namespace Timed

theorem fresh (d : Decoder S) : Timed live { decoder := d } [] where
  waiting := nofun
  remembered := nofun
  unseen := by simp

theorem ended (h : Timed live l os) : Timed live { l with waiting := none } os where
  waiting := nofun
  remembered := h.remembered
  unseen := h.unseen

theorem onMedium (h : Timed live l os) (f : S → S) :
    Timed live { l with decoder := l.decoder.onMedium f } os :=
  ⟨h.waiting, h.remembered, h.unseen⟩

variable {fs : List Finding} {a : Decoded (Decoder S) String}

theorem nextTime_absorb (live : Bool) (l : Lookahead (Decoder S) String)
    (a : Decoded (Decoder S) String) (htells : a.outcome.tellsTime live = false) :
    (l.absorb live a).nextTime = l.nextTime := by
  unfold Lookahead.absorb
  dsimp only
  rw [htells]
  rfl

theorem waiting_absorb (h : Timed live l os) (hactive : l.state = .active)
    (ha : Tells l.decoder.tally fs a) {t : UInt32} {body : Body String}
    (ht : (l.absorb live a).nextTime = some t) (hbody : (l.absorb live a).waiting = some body) :
    body.sec = t := by
  have hoffer : a.offer live = some body := hbody
  have hsame := Lookahead.eq_body_of_offer hoffer
  cases htells : a.outcome.tellsTime live with
  | true =>
    unfold Lookahead.absorb at ht
    dsimp only at ht
    rw [htells] at ht
    rw [hsame]
    exact Option.some.inj ht
  | false =>
    rw [nextTime_absorb live l a htells] at ht
    have hdelivers : a.outcome.delivers live = true := by
      by_contra hnot
      rw [Decoded.offer, if_neg hnot] at hoffer
      cases hoffer
    have hbad : a.outcome = .corruptedMessage := by
      have hsupported := ha.supported
      cases houtcome : a.outcome <;> cases live <;>
        simp_all [Outcome.tellsTime, Outcome.delivers]
    rw [hsame, ha.placeholder hbad]
    exact h.remembered t hactive ht

theorem remembered_absorb (h : Timed live l os) (hactive : l.state = .active)
    (ha : Tells l.decoder.tally fs a) {t : UInt32}
    (hstill : (l.absorb live a).state = .active) (ht : (l.absorb live a).nextTime = some t) :
    a.state.tally.lastTime.1 = t := by
  have hruns : a.outcome.stops live = false := by
    have hlifecycle : a.outcome.lifecycle live l.state = .active := hstill
    rw [hactive] at hlifecycle
    exact Outcome.lifecycle_eq_active_iff.mp hlifecycle
  by_cases hok : a.outcome = .ok
  · unfold Lookahead.absorb at ht
    dsimp only at ht
    rw [hok] at ht
    rw [ha.time_of_ok hok]
    exact Option.some.inj ht
  · have htells : a.outcome.tellsTime live = false := by
      cases houtcome : a.outcome <;> cases live <;>
        simp_all [Outcome.tellsTime, Outcome.stops, Outcome.endsDump]
    rw [nextTime_absorb live l a htells] at ht
    rw [ha.time_kept hok]
    exact h.remembered t hactive ht

theorem unseen_absorb (h : Timed live l os) :
    (l.absorb live a).nextTime = none ↔
      .ok ∉ os ++ [a.outcome] ∧
        (live = true ∨ ∀ o ∈ os ++ [a.outcome], o.endsDump = false) := by
  have hnext : (l.absorb live a).nextTime = none ↔
      a.outcome.tellsTime live = false ∧ l.nextTime = none := by
    unfold Lookahead.absorb
    cases a.outcome.tellsTime live <;> simp
  have hcomm : .ok = a.outcome ↔ a.outcome = .ok := eq_comm
  rw [hnext, h.unseen, Outcome.tellsTime_eq_false_iff]
  simp only [List.mem_append, List.mem_singleton, not_or, or_imp, forall_and, forall_eq, hcomm]
  cases live <;> simp <;> tauto

/-- The step of the invariant: the stream takes in an answer of its decoder. -/
theorem absorb (h : Timed live l os) (hactive : l.state = .active)
    (ha : Tells l.decoder.tally fs a) : Timed live (l.absorb live a) (os ++ [a.outcome]) where
  waiting _ _ := h.waiting_absorb hactive ha
  remembered _ := h.remembered_absorb hactive ha
  unseen := h.unseen_absorb

theorem inductive_decoder [Medium S] (resource : Resource) :
    Lookahead.Inductive (decoder S) resource (Timed resource.isLive) where
  fresh := Timed.fresh
  absorbed l _ hactive h := h.absorb hactive l.decoder.tells_decode
  ended _ _ _ h := h.ended

end Timed

section History

variable {ω : Type} {resource : Resource}

/-- What does not look at the medium survives whatever becomes of it. -/
theorem upholds_onMedium {I : Lookahead (Decoder S) String → List Outcome → Prop}
    (hI : ∀ l os f, I l os → I { l with decoder := l.decoder.onMedium f } os)
    {r : Reader ω (Decoder S) String} (h : r.Upholds resource I os) (before : ω → ω)
    (after : S → S) : (r.disturb before (Decoder.onMedium after)).Upholds resource I os := by
  cases h with
  | opening hnone => exact .opening hnone
  | streaming hstamped hresource hinv =>
    rw [Reader.disturb_streaming rfl]
    exact .streaming hstamped hresource (hI _ _ after hinv)
  | failed => exact .failed

theorem upholds_disturb {r : Reader ω (Decoder S) String}
    (h : r.Upholds resource (Timed resource.isLive) os) (before : ω → ω) (after : S → S) :
    (r.disturb before (Decoder.onMedium after)).Upholds resource (Timed resource.isLive) os :=
  upholds_onMedium (fun _ _ f htimed => htimed.onMedium f) h before after

variable [Medium S] {F : Format ω (Decoder S) String}

theorem upholds_history (hF : Decodes F) {r : Reader ω (Decoder S) String}
    (h : r.Upholds resource (Timed resource.isLive) os) (hs : List (Happening ω S)) :
    (history F r hs).value.Upholds resource (Timed resource.isLive)
      (os ++ Event.outcomes (history F r hs).events) := by
  have hI : Lookahead.Inductive F.toDecoder resource (Timed resource.isLive) := by
    rw [hF.decoder_eq]
    exact Timed.inductive_decoder resource
  induction hs generalizing r os with
  | nil => exact (List.append_nil os).symm ▸ h
  | cons happening hs ih =>
    cases happening with
    | call c =>
      have hcalled := ih (Reader.upholds_call hF.reticent hI h c)
      rw [List.append_assoc, ← Event.outcomes_append] at hcalled
      exact hcalled
    | change before after => exact ih (upholds_disturb h before after)

end History
end Ascii

namespace Reader

open Ascii

variable {ω S : Type} [Medium S] {F : Format ω (Ascii.Decoder S) String}

/-- At any moment in the life of a reader, whatever others do to its dump: the record that is
handed out next has the time shown, and no time is shown as long as no line was a record inside the
interval and no end of a finite dump was met. -/
theorem next_time_agrees (hF : Decodes F) (policy : RetryPolicy) (resource : Resource) (w : ω)
    (hs : List (Happening ω S)) :
    let lived := history F (start resource policy w) hs
    let asked := lived.value.nextTime F
    let outcomes := Event.outcomes (lived.events ++ asked.events)
    (∀ time before after record, asked.value.1 = .ok (some time) →
        ((asked.value.2.disturb before (Decoder.onMedium after)).next F).value.1 = .ok record →
        record.body.sec = time) ∧
      (∀ time, asked.value.1 = .ok time →
        (time = none ↔
          .ok ∉ outcomes ∧ (resource.isLive = true ∨ ∀ o ∈ outcomes, o.endsDump = false))) ∧
      ∀ (d : Ascii.Decoder S) (origin : Origin),
        (F.decode d { origin := origin }).outcome = .ok ↔ ∃ line, .record line ∈ d.taken := by
  intro lived asked outcomes
  have hI : Lookahead.Inductive F.toDecoder resource (Timed resource.isLive) := by
    rw [hF.decoder_eq]
    exact Timed.inductive_decoder resource
  have hstart : (start resource policy w : Reader ω (Ascii.Decoder S) String).Upholds resource
      (Timed resource.isLive) [] := .opening rfl
  have hlived := upholds_history hF hstart hs
  have hasked : asked.value.2.Upholds resource (Timed resource.isLive) outcomes := by
    have hcalled := upholds_call hF.reticent hI hlived .nextTime
    rw [List.nil_append, ← Event.outcomes_append] at hcalled
    exact hcalled
  refine ⟨?_, ?_, ?_⟩
  · intro time before after record htime hrecord
    obtain ⟨s, hphase, hshown⟩ := streaming_of_nextTime htime
    have hchanged := upholds_disturb hasked before after
    rw [disturb_streaming hphase] at hchanged hrecord
    obtain ⟨hstamped, htimed⟩ := upholds_streaming hchanged rfl
    rw [next_streaming rfl] at hrecord
    have hpull := (Stream.lookahead_advance hstamped).1.symm.trans hrecord
    obtain ⟨body, hwaiting, hbody⟩ := Lookahead.waiting_of_pull hpull
    have hsec : body.sec = time := htimed.waiting time body hshown hwaiting
    rcases hbody with hbody | hbody <;> rw [hbody] <;> exact hsec
  · intro time htime
    obtain ⟨s, hphase, hshown⟩ := streaming_of_nextTime htime
    obtain ⟨-, htimed⟩ := upholds_streaming hasked hphase
    rw [← hshown]
    exact htimed.unseen
  · intro d origin
    rw [hF.decoder_eq]
    exact d.tells_decode.ok_iff

/-- A placeholder waits behind a record handed out, in a live dump that grows between the calls. -/
theorem next_time_agrees_placeholder :
    let resource : Resource :=
      { url := "feed", project := "p", collector := "c", recordType := .updates, initialTime := 0
        extent := .forever }
    let F := mediumFormat (List Item) resource {}
    let grow (text : String) (items : List Item) : List Item :=
      items ++ Item.ofBytes (Text.Utf8.encode text.toList)
    let lived := history F (start resource {} [])
      [.change (grow "10|a\n") id, .call .openWait, .change id (grow "?\n"), .call .next]
    let asked := lived.value.nextTime F
    let pulled := asked.value.2.next F
    asked.value.1 = .ok (some 10) ∧
      pulled.value.1.record?.map (fun r => (r.body.status, r.body.sec)) =
        some (.corruptedRecord, 10) ∧
      ∀ before after record,
        ((asked.value.2.disturb before (Decoder.onMedium after)).next F).value.1 = .ok record →
          record.body.sec = 10 := by
  intro resource F grow lived asked pulled
  have hasked : asked.value.1 = .ok (some 10) := by decide +kernel
  have hpulled : pulled.value.1.record?.map (fun r => (r.body.status, r.body.sec)) =
      some (.corruptedRecord, 10) := by decide +kernel
  refine ⟨hasked, hpulled, fun before after record => ?_⟩
  exact (next_time_agrees (decodes_mediumFormat resource {}) {} resource []
    [.change (grow "10|a\n") id, .call .openWait, .change id (grow "?\n"), .call .next]).1
      10 before after record hasked

end Reader
end RoutingDump
