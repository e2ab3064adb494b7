import RoutingDump.Proofs.Reader.Opening
import RoutingDump.Script

/-!
# The outcome of an open is kept

Whichever call comes first, the outcome of the open is settled by it for good: either every later
call works on the stream, or every later call fails in the same way. Calls other than pulls leave a
settled reader as it is.

An open fails as its opener does: the attempts are used up, a record cannot be made, or a crash in
any of the calls up to the first message takes the opener with it. `OpenFails` lists these ways from
what the factory and the decoder answer, and `openFails_opening` says that there are no others.
-/

namespace RoutingDump

variable {ω σ P : Type}

namespace ReaderAnswer

/-- An answer of a reader whose open succeeded. -/
def Granted (resource : Resource) : ReaderAnswer P → Prop
  | .opened result => result = .ok ()
  | .time result => ∃ time, result = .ok time
  | .pulled pull => ∀ record, pull ≠ .endOfStream (some record)
  | .resource r => r = resource

/-- An answer of a reader whose open failed. -/
def Refused (resource : Resource) : ReaderAnswer P → Prop
  | .opened result => result = .error (.cannotOpen resource.url)
  | .time result => result = .error (.cannotOpen resource.url)
  | .pulled pull =>
    pull = .endOfStream (some
      { origin :=
          { project := truncateName resource.project
            collector := truncateName resource.collector
            recordType := resource.recordType
            dumpTime := resource.initialTime }
        body :=
          { status := .corruptedSource, position := .first, sec := 0, usec := 0
            payload := none } })
  | .resource r => r = resource

end ReaderAnswer

theorem Stream.advance_ne_endOfStream_some {D : Decoder σ P} (s : Stream σ P) (record : Record P) :
    (s.advance D).value.1 ≠ .endOfStream (some record) := by
  have hresult : ∀ s : Stream σ P, s.result ≠ .endOfStream (some record) := by
    intro s
    unfold result
    split
    · nofun
    · split <;> nofun
  unfold advance
  dsimp only
  split
  · split
    · nofun
    · exact hresult _
  · exact hresult _

namespace Decoder

/-- All ways in which a decoder breaks down before it has answered for the first message. -/
inductive Breaks (D : Decoder σ P) (resource : Resource) (d : σ) : Prop
  | firstFails {e : DecoderError} {d₁ : σ} (hfirst : D.create d = (.failed e, d₁))
  | firstCrashes {d₁ : σ} (hfirst : D.create d = (.crashed, d₁))
  | secondFails {first : Body P} {e : DecoderError} {d₁ d₂ : σ}
    (hfirst : D.create d = (.made first, d₁)) (hsecond : D.create d₁ = (.failed e, d₂))
  | secondCrashes {first : Body P} {d₁ d₂ : σ}
    (hfirst : D.create d = (.made first, d₁)) (hsecond : D.create d₁ = (.crashed, d₂))
  | messageCrashes {first second : Body P} {d₁ d₂ : σ}
    (hfirst : D.create d = (.made first, d₁)) (hsecond : D.create d₁ = (.made second, d₂))
    (hmessage : D.crashesFirst d₂ { origin := resource.origin } = true)

variable {D : Decoder σ P} {resource : Resource} {d : σ}

theorem breaks_iff : D.Breaks resource d ↔ ¬ (D.MakesRecords d ∧ ¬ D.CrashesFirst resource d) := by
  constructor
  · rintro h ⟨⟨d', first, d₁, second, hfirst, hsecond⟩, hanswers⟩
    cases h with
    | firstFails hfirst' | firstCrashes hfirst' => cases hfirst.symm.trans hfirst'
    | secondFails hfirst' hsecond' | secondCrashes hfirst' hsecond' =>
      cases hfirst.symm.trans hfirst'
      cases hsecond.symm.trans hsecond'
    | messageCrashes hfirst' hsecond' hmessage =>
      exact hanswers ⟨_, ⟨_, _, _, hfirst', hsecond'⟩, hmessage⟩
  · intro h
    rcases hfirst : D.create d with ⟨first | e | _, d₁⟩
    · rcases hsecond : D.create d₁ with ⟨second | e | _, d₂⟩
      · have hmakes : D.Makes d d₂ := ⟨first, d₁, second, hfirst, hsecond⟩
        by_cases hmessage : D.crashesFirst d₂ { origin := resource.origin } = true
        · exact .messageCrashes hfirst hsecond hmessage
        · refine absurd ⟨⟨d₂, hmakes⟩, ?_⟩ h
          rintro ⟨d', hmakes', hmessage'⟩
          rw [hmakes'.unique hmakes] at hmessage'
          exact hmessage hmessage'
      · exact .secondFails hfirst hsecond
      · exact .secondCrashes hfirst hsecond
    · exact .firstFails hfirst
    · exact .firstCrashes hfirst

end Decoder

namespace Reader

variable {F : Format ω σ P}

/-- All ways in which the open of a reader comes to nothing. -/
def OpenFails (F : Format ω σ P) (r : Reader ω σ P) : Prop :=
  match r.phase with
  | .opening w =>
    (∀ i < r.policy.attempts, ∃ e, (F.response w i).attempt = .failed e) ∨
      ∃ i < r.policy.attempts, (∀ j < i, ∃ e, (F.response w j).attempt = .failed e) ∧
        ((F.response w i).attempt = .crashed ∨
          ∃ d, (F.response w i).attempt = .opened d ∧ F.Breaks r.resource d)
  | .streaming _ => False
  | .failed _ => True

theorem openFails_opening (F : Format ω σ P) (policy : RetryPolicy) (resource : Resource) (w : ω) :
    OpenFails F (start resource policy w) ↔
      ¬ ∃ s, (Opener.run F policy resource (fun _ => false) w).value.1 = .stream s := by
  obtain ⟨errors, h⟩ := F.exists_settles w policy.attempts
  rw [Opener.run_stream_iff h]
  constructor
  · rintro (hall | ⟨i, hi, hbefore, hend⟩) ⟨k, hk, hbefore', d, hd, hopens⟩
    · obtain ⟨e, he⟩ := hall k hk
      cases hd.symm.trans he
    · have hlength := h.eq_length hk hbefore' fun e he => by cases hd.symm.trans he
      have hlength' := h.eq_length hi hbefore fun e he => by
        rcases hend with hcrash | ⟨d', hd', -⟩
        · cases hcrash.symm.trans he
        · cases hd'.symm.trans he
      obtain rfl := hlength.trans hlength'.symm
      rcases hend with hcrash | ⟨d', hd', hbreaks⟩
      · cases hd.symm.trans hcrash
      · cases hd.symm.trans hd'
        exact Decoder.breaks_iff.mp hbreaks hopens
  · intro hnone
    rcases h.ends with hall | ⟨hlt, ⟨d, hd⟩ | hcrash⟩
    · exact .inl fun i hi => h.fails.exists_error (hall ▸ hi)
    · refine .inr ⟨errors.length, hlt, fun j hj => h.fails.exists_error hj, .inr ⟨d, hd, ?_⟩⟩
      refine Decoder.breaks_iff.mpr fun hopens => ?_
      exact hnone ⟨errors.length, hlt, fun j hj => h.fails.exists_error hj, d, hd, hopens⟩
    · exact .inr ⟨errors.length, hlt, fun j hj => h.fails.exists_error hj, .inl hcrash⟩

theorem resolve_cases (r : Reader ω σ P) :
    (¬ OpenFails F r ∧ ∃ s, (r.resolve F).value = { r with phase := .streaming s }) ∨
      OpenFails F r ∧ ∃ crashed, (r.resolve F).value = { r with phase := .failed crashed } := by
  obtain ⟨resource, policy, phase⟩ := r
  cases phase with
  | opening w =>
    have hfails := openFails_opening F policy resource w
    unfold start at hfails
    unfold resolve
    dsimp only
    rw [hfails]
    generalize Opener.run F policy resource (fun _ => false) w = run
    obtain ⟨events, handover, w'⟩ := run
    cases handover with
    | stream s => exact .inl ⟨fun hnone => hnone ⟨s, rfl⟩, s, rfl⟩
    | cannotOpen =>
      refine .inr ⟨?_, false, rfl⟩
      rintro ⟨s, hs⟩
      cases hs
    | nothing =>
      refine .inr ⟨?_, true, rfl⟩
      rintro ⟨s, hs⟩
      cases hs
  | streaming s => exact .inl ⟨id, s, rfl⟩
  | failed crashed => exact .inr ⟨trivial, crashed, rfl⟩

/-! ### Settled readers -/

def Settled (r : Reader ω σ P) : Prop :=
  (∃ s, r.phase = .streaming s) ∨ ∃ crashed, r.phase = .failed crashed

theorem settled_resolve (r : Reader ω σ P) : (r.resolve F).value.Settled := by
  rcases resolve_cases (F := F) r with ⟨-, s, hr⟩ | ⟨-, crashed, hr⟩
  · exact .inl ⟨s, by rw [hr]⟩
  · exact .inr ⟨crashed, by rw [hr]⟩

theorem resolve_settled {r : Reader ω σ P} (h : r.Settled) :
    r.resolve F = { events := [], value := r } := by
  unfold resolve
  rcases h with ⟨s, hs⟩ | ⟨crashed, hcrashed⟩
  · rw [hs]
  · rw [hcrashed]

/-- A call that needs the outcome of the open gives the same whether it has been waited for or
not. -/
theorem value_call_resolve (r : Reader ω σ P) {c : ReaderCall} (hc : c ≠ .resource) :
    (r.call F c).value = ((r.resolve F).value.call F c).value := by
  have hsettled := resolve_settled (F := F) (settled_resolve (F := F) r)
  cases c with
  | openWait =>
    unfold call openWait
    rw [hsettled]
    dsimp only
    split <;> rfl
  | nextTime =>
    unfold call nextTime
    rw [hsettled]
    dsimp only
    split <;> rfl
  | next =>
    unfold call next
    rw [hsettled]
    dsimp only
    split <;> rfl
  | resource => exact absurd rfl hc

theorem resource_resolve (r : Reader ω σ P) : (r.resolve F).value.resource = r.resource := by
  rcases resolve_cases (F := F) r with ⟨-, s, hr⟩ | ⟨-, crashed, hr⟩ <;> rw [hr]

theorem answers_cons (r : Reader ω σ P) (c : ReaderCall) (cs : List ReaderCall) :
    (r.calls F (c :: cs)).value.1 =
      (r.call F c).value.1 :: ((r.call F c).value.2.calls F cs).value.1 := rfl

/-- The answers are the same as if somebody had waited for the open before. -/
theorem answers_resolve (r : Reader ω σ P) (cs : List ReaderCall) :
    (r.calls F cs).value.1 = ((r.resolve F).value.calls F cs).value.1 := by
  induction cs with
  | nil => rfl
  | cons c cs ih =>
    rw [answers_cons, answers_cons]
    by_cases hc : c = .resource
    · subst hc
      show ReaderAnswer.resource r.resource :: (r.calls F cs).value.1 = _
      rw [ih, ← resource_resolve (F := F)]
      rfl
    · rw [value_call_resolve r hc]

theorem call_streaming {r : Reader ω σ P} {s : Stream σ P} (h : r.phase = .streaming s)
    (c : ReaderCall) :
    (r.call F c).value.1.Granted r.resource ∧
      ∃ s', (r.call F c).value.2 = { r with phase := .streaming s' } := by
  have hsame : r = { r with phase := .streaming s } := by rw [← h]
  cases c with
  | openWait =>
    show ReaderAnswer.Granted _ (.opened (r.openWait F).value.1) ∧ _
    unfold call openWait
    rw [resolve_streaming h]
    dsimp only
    rw [h]
    exact ⟨rfl, s, hsame⟩
  | nextTime =>
    show ReaderAnswer.Granted _ (.time (r.nextTime F).value.1) ∧ _
    unfold call nextTime
    rw [resolve_streaming h]
    dsimp only
    rw [h]
    exact ⟨⟨_, rfl⟩, s, hsame⟩
  | next =>
    show ReaderAnswer.Granted _ (.pulled (r.next F).value.1) ∧ _
    unfold call
    rw [next_streaming h]
    exact ⟨s.advance_ne_endOfStream_some, _, rfl⟩
  | resource => exact ⟨rfl, s, hsame⟩

theorem call_failed {r : Reader ω σ P} {crashed : Bool} (h : r.phase = .failed crashed)
    (c : ReaderCall) :
    (r.call F c).value.1.Refused r.resource ∧ (r.call F c).value.2 = r := by
  have hresolve : r.resolve F = { events := [], value := r } := resolve_settled (.inr ⟨crashed, h⟩)
  cases c with
  | openWait =>
    unfold call openWait
    rw [hresolve]
    dsimp only
    rw [h]
    exact ⟨rfl, rfl⟩
  | nextTime =>
    unfold call nextTime
    rw [hresolve]
    dsimp only
    rw [h]
    exact ⟨rfl, rfl⟩
  | next =>
    unfold call next
    rw [hresolve]
    dsimp only
    rw [h]
    exact ⟨rfl, rfl⟩
  | resource => exact ⟨rfl, rfl⟩

/-- Calls other than pulls leave a settled reader as it is. -/
theorem call_of_ne_next {r : Reader ω σ P} (h : r.Settled) {c : ReaderCall} (hc : c ≠ .next) :
    (r.call F c).value.2 = r ∧ (r.call F c).value.1.pull? = none := by
  cases c with
  | openWait =>
    have hresolve := (openWait_eq (F := F) r).2
    rw [resolve_settled h] at hresolve
    exact ⟨hresolve, rfl⟩
  | nextTime =>
    refine ⟨?_, rfl⟩
    show (r.nextTime F).value.2 = r
    unfold nextTime
    rw [resolve_settled h]
    dsimp only
    split <;> rfl
  | next => exact absurd rfl hc
  | resource => exact ⟨rfl, rfl⟩

theorem settled_call {r : Reader ω σ P} (h : r.Settled) (c : ReaderCall) :
    (r.call F c).value.2.Settled := by
  rcases h with ⟨s, hs⟩ | ⟨crashed, hcrashed⟩
  · obtain ⟨-, s', hs'⟩ := call_streaming (F := F) hs c
    exact .inl ⟨s', by rw [hs']⟩
  · rw [(call_failed hcrashed c).2]
    exact .inr ⟨crashed, hcrashed⟩

/-! ### Sequences of calls -/

theorem answers_streaming {r : Reader ω σ P} {s : Stream σ P} (h : r.phase = .streaming s)
    (cs : List ReaderCall) : ∀ a ∈ (r.calls F cs).value.1, a.Granted r.resource := by
  induction cs generalizing r s with
  | nil => exact fun a ha => absurd ha List.not_mem_nil
  | cons c cs ih =>
    obtain ⟨hgranted, s', hr'⟩ := call_streaming (F := F) h c
    rw [answers_cons, hr']
    intro a ha
    rcases List.mem_cons.mp ha with rfl | ha
    · exact hgranted
    · exact ih (r := { r with phase := .streaming s' }) rfl a ha

theorem answers_failed {r : Reader ω σ P} {crashed : Bool} (h : r.phase = .failed crashed)
    (cs : List ReaderCall) : ∀ a ∈ (r.calls F cs).value.1, a.Refused r.resource := by
  induction cs with
  | nil => exact fun a ha => absurd ha List.not_mem_nil
  | cons c cs ih =>
    obtain ⟨hrefused, hr'⟩ := call_failed (F := F) h c
    rw [answers_cons, hr']
    intro a ha
    rcases List.mem_cons.mp ha with rfl | ha
    · exact hrefused
    · exact ih a ha

theorem pulls_filter {r : Reader ω σ P} (h : r.Settled) (cs : List ReaderCall) :
    (r.calls F cs).value.1.filterMap ReaderAnswer.pull? =
      (r.calls F (cs.filter (· = .next))).value.1.filterMap ReaderAnswer.pull? := by
  induction cs generalizing r with
  | nil => rfl
  | cons c cs ih =>
    by_cases hc : c = .next
    · rw [List.filter_cons_of_pos (by simpa using hc), answers_cons, answers_cons,
        List.filterMap_cons, List.filterMap_cons, ih (settled_call h c)]
    · obtain ⟨hr', hpull⟩ := call_of_ne_next (F := F) h hc
      rw [List.filter_cons_of_neg (by simpa using hc), answers_cons, hr',
        List.filterMap_cons_none hpull]
      exact ih h

theorem outcome_latched (F : Format ω σ P) (r : Reader ω σ P) (cs : List ReaderCall) :
    let answers := (r.calls F cs).value.1
    ((¬ OpenFails F r ∧ ∀ a ∈ answers, a.Granted r.resource) ∨
        OpenFails F r ∧ ∀ a ∈ answers, a.Refused r.resource) ∧
      answers.filterMap ReaderAnswer.pull? =
        (r.calls F (cs.filter (· = .next))).value.1.filterMap ReaderAnswer.pull? := by
  intro answers
  have hanswers : answers = ((r.resolve F).value.calls F cs).value.1 := answers_resolve r cs
  refine ⟨?_, ?_⟩
  · rw [hanswers, ← resource_resolve (F := F)]
    rcases resolve_cases (F := F) r with ⟨hopens, s, hr⟩ | ⟨hfails, crashed, hr⟩
    · exact .inl ⟨hopens, answers_streaming (by rw [hr]) cs⟩
    · exact .inr ⟨hfails, answers_failed (by rw [hr]) cs⟩
  · rw [hanswers, answers_resolve r (cs.filter _)]
    exact pulls_filter (settled_resolve r) cs

/-- Decoders that crash while a record is made, and at the first message. -/
theorem outcome_latched_crashed_decoder :
    let resource : Resource :=
      { url := "feed", project := "p", collector := "c", recordType := .updates, initialTime := 0 }
    let script : Script UInt32 := .start [.timed .ok 10 .first] false .atEnd []
    let r := start resource {} script
    let atRecord : Format (Script UInt32) (Script UInt32) UInt32 :=
      { Script.format with create := fun s => (.crashed, s) }
    let atMessage : Format (Script UInt32) (Script UInt32) UInt32 :=
      { Script.format with crashesFirst := fun _ _ => true }
    let cs : List ReaderCall := [.next, .openWait, .nextTime, .resource, .next]
    (OpenFails atRecord r ∧ ∀ a ∈ (r.calls atRecord cs).value.1, a.Refused resource) ∧
      (OpenFails atMessage r ∧ ∀ a ∈ (r.calls atMessage cs).value.1, a.Refused resource) ∧
      ¬ OpenFails Script.format r := by
  intro resource script r atRecord atMessage cs
  have hrefused {F : Format (Script UInt32) (Script UInt32) UInt32} (hfails : OpenFails F r) :
      ∀ a ∈ (r.calls F cs).value.1, a.Refused resource :=
    ((outcome_latched F r cs).1.resolve_left fun hopens => hopens.1 hfails).2
  have hrecord : OpenFails atRecord r :=
    .inr ⟨0, by decide, nofun, .inr ⟨script, rfl, .firstCrashes rfl⟩⟩
  have hmessage : OpenFails atMessage r :=
    .inr ⟨0, by decide, nofun, .inr ⟨script, rfl, .messageCrashes rfl rfl rfl⟩⟩
  have hopens : ¬ OpenFails Script.format r := by
    intro hfails
    cases hrefused hfails (.opened (.ok ())) (List.mem_cons_of_mem _ List.mem_cons_self)
  exact ⟨⟨hrecord, hrefused hrecord⟩, ⟨hmessage, hrefused hmessage⟩, hopens⟩

end Reader
end RoutingDump
