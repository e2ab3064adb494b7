import RoutingDump.Proofs.Reader.Latch

/-!
# Outcomes in a trace

A stream reports the outcome of every decode call, and nobody else reports in its name. So a trace
shows which outcomes a reader has taken in by any moment. What holds of a stream and its outcomes,
whichever answer comes next, holds of a reader in any sequence of calls: `upholds_call` is that
step.
-/

namespace RoutingDump

variable {ω σ P : Type}

namespace Event

def outcome? : Event P → Option Outcome
  | .notice (.prefetched _ outcome) => some outcome
  | _ => none

/-- The outcomes of the decode calls in a trace. -/
def outcomes (es : List (Event P)) : List Outcome := es.filterMap outcome?

theorem outcomes_append (es fs : List (Event P)) :
    outcomes (es ++ fs) = outcomes es ++ outcomes fs := List.filterMap_append

theorem outcome?_notice {n : Notice} (h : n.reporter ≠ .buffer) :
    outcome? (notice (P := P) n) = none := by
  cases n with
  | prefetched url outcome => exact absurd rfl h
  | _ => rfl

theorem outcomes_notices {ns : List Notice} (h : ∀ n ∈ ns, n.reporter ≠ .buffer) :
    outcomes (ns.map (notice (P := P))) = [] := by
  rw [outcomes, List.filterMap_map, List.filterMap_eq_nil_iff]
  exact fun n hn => outcome?_notice (h n hn)

end Event

/-- The decoder does not report in the name of the stream. -/
def Decoder.Reticent (D : Decoder σ P) : Prop :=
  ∀ d record, ∀ n ∈ (D.decode d record).notices, n.reporter ≠ .buffer

/-- Neither the factory nor the decoder reports in the name of the stream. -/
structure Format.Reticent (F : Format ω σ P) : Prop where
  attempt : ∀ w, ∀ n ∈ (F.attempt w).notices, n.reporter ≠ .buffer
  decode : F.toDecoder.Reticent

namespace Stream

variable {D : Decoder σ P}

theorem outcomes_absorb (s : Stream σ P) (a : Decoded σ P) :
    Event.outcomes ((s.absorb a).2.map (Event.notice (P := P))) = [] := by
  unfold absorb
  dsimp only
  split
  · rfl
  · split
    · rfl
    · split
      · rfl
      · split <;> rfl

theorem outcomes_prefetch (hD : D.Reticent) {s : Stream σ P} (h : s.Stamped) :
    Event.outcomes (s.prefetch D).events = [(s.lookahead.answer D s.resource).outcome] := by
  have hrecord : s.buffer.prefetch.record.clear = { origin := s.resource.origin } := by
    rw [← h s.buffer.ahead]
    rfl
  have hquiet := Event.outcomes_notices (P := P) (hD s.decoder { origin := s.resource.origin })
  have habsorb := outcomes_absorb s (s.lookahead.answer D s.resource)
  unfold prefetch
  rw [hrecord]
  show Event.outcomes (List.map Event.notice (_ ++ Notice.prefetched _ _ :: _)) = _
  rw [List.map_append, Event.outcomes_append, hquiet, List.map_cons, List.nil_append]
  exact congrArg (_ :: ·) habsorb

theorem outcomes_advance (hD : D.Reticent) {s : Stream σ P} (h : s.Stamped) :
    Event.outcomes (s.advance D).events =
      if s.state = .active then [(s.lookahead.answer D s.resource).outcome] else [] := by
  by_cases hactive : s.state = .active
  · have hprefetch : Event.outcomes (s.turn.prefetch D).events =
        [(s.lookahead.answer D s.resource).outcome] := outcomes_prefetch hD (stamped_turn h)
    unfold advance
    dsimp only
    rw [if_pos (show s.turn.state = .active from hactive), if_pos hactive]
    generalize s.turn.prefetch D = t at hprefetch ⊢
    obtain ⟨events, outcome, next⟩ := t
    dsimp only at hprefetch ⊢
    split
    · rw [Event.outcomes_append, hprefetch]
      rfl
    · exact hprefetch
  · unfold advance
    dsimp only
    rw [if_neg (show ¬ s.turn.state = .active from hactive), if_neg hactive]
    rfl

end Stream

theorem Opener.outcomes_retry {F : Format ω σ P} (hF : F.Reticent) (policy : RetryPolicy)
    (url : String) (gone : Nat → Bool) (left attempt : Nat) (w : ω) :
    Event.outcomes (retry F policy url gone left attempt w).events = [] := by
  refine List.filterMap_eq_nil_iff.mpr fun e he => ?_
  cases ofAttempts_retry F policy url gone left attempt w e he with
  | attempt | wait d => rfl
  | opener hn =>
    refine Event.outcome?_notice ?_
    rw [hn]
    nofun
  | factory hn => exact Event.outcome?_notice (hF.attempt _ _ hn)

/-- What holds of a stream and the outcomes that it has taken in, whatever pulls come. -/
structure Lookahead.Inductive (D : Decoder σ P) (resource : Resource)
    (I : Lookahead σ P → List Outcome → Prop) : Prop where
  fresh : ∀ d, I { decoder := d } []
  absorbed : ∀ l os, l.state = .active → I l os →
    I (l.absorb resource.isLive (l.answer D resource)) (os ++ [(l.answer D resource).outcome])
  ended : ∀ l os, l.state ≠ .active → I l os → I { l with waiting := none } os

/-- The same for the streams of a format, whose decoders need not begin anywhere. -/
structure Format.Inductive (F : Format ω σ P) (resource : Resource)
    (I : Lookahead σ P → List Outcome → Prop) : Prop where
  fresh : ∀ policy w d, Opener.ready? F policy resource w = some d → I { decoder := d } []
  absorbed : ∀ l os, l.state = .active → I l os →
    I (l.absorb resource.isLive (l.answer F.toDecoder resource))
      (os ++ [(l.answer F.toDecoder resource).outcome])
  ended : ∀ l os, l.state ≠ .active → I l os → I { l with waiting := none } os

theorem Lookahead.Inductive.format {F : Format ω σ P} {resource : Resource}
    {I : Lookahead σ P → List Outcome → Prop} (h : Inductive F.toDecoder resource I) :
    F.Inductive resource I where
  fresh _ _ d _ := h.fresh d
  absorbed := h.absorbed
  ended := h.ended

namespace Reader

variable {F : Format ω σ P} {resource : Resource} {I : Lookahead σ P → List Outcome → Prop}
  {os : List Outcome}

/-- The reader has taken in the outcomes `os`, and its stream satisfies `I` if it has one. -/
inductive Upholds (resource : Resource) (I : Lookahead σ P → List Outcome → Prop)
    (os : List Outcome) : Reader ω σ P → Prop
  | opening {policy : RetryPolicy} {w : ω} (hnone : os = []) :
    Upholds resource I os { resource := resource, policy := policy, phase := .opening w }
  | streaming {policy : RetryPolicy} {s : Stream σ P} (hstamped : s.Stamped)
    (hresource : s.resource = resource) (hinv : I s.lookahead os) :
    Upholds resource I os { resource := resource, policy := policy, phase := .streaming s }
  | failed {policy : RetryPolicy} {crashed : Bool} :
    Upholds resource I os { resource := resource, policy := policy, phase := .failed crashed }

theorem upholds_streaming {r : Reader ω σ P} {s : Stream σ P} (h : r.Upholds resource I os)
    (hphase : r.phase = .streaming s) : s.Stamped ∧ I s.lookahead os := by
  cases h with
  | streaming hstamped _ hinv =>
    cases hphase
    exact ⟨hstamped, hinv⟩
  | opening | failed => cases hphase

theorem outcomes_resolve_ready (hF : F.Reticent) {policy : RetryPolicy} {w : ω} {d : σ}
    (h : Opener.ready? F policy resource w = some d) :
    Event.outcomes ((start resource policy w).resolve F).events =
      [(F.answer resource.origin d 0).outcome] := by
  obtain ⟨built, hbuilt, hresolve⟩ := resolve_built h
  have hfirst : built.lookahead.answer F.toDecoder built.resource =
      F.answer resource.origin d 0 := by
    rw [hbuilt.lookahead_eq, hbuilt.resource_eq]
    rfl
  rw [hresolve, Event.outcomes_append, Event.outcomes_append, Event.outcomes_append,
    Opener.outcomes_retry hF, Stream.outcomes_prefetch hF.decode hbuilt.stamped, hfirst,
    Opener.firstFailure]
  split <;> rfl

theorem upholds_resolve_opening (hF : F.Reticent) (hI : F.Inductive resource I)
    (policy : RetryPolicy) (w : ω) :
    ((start resource policy w).resolve F).value.Upholds resource I
      (Event.outcomes ((start resource policy w).resolve F).events) := by
  cases hready : Opener.ready? F policy resource w with
  | none =>
    obtain ⟨crashed, hphase⟩ := resolve_not_ready hready
    rcases resolve_cases (F := F) (start resource policy w) with ⟨-, s, hr⟩ | ⟨-, crashed', hr⟩
    · rw [hr] at hphase
      cases hphase
    · rw [hr]
      exact .failed
  | some d =>
    obtain ⟨s, hvalue, hfresh, -⟩ := resolve_ready hready
    rw [hvalue, outcomes_resolve_ready hF hready]
    refine .streaming hfresh.stamped hfresh.resource_eq ?_
    rw [hfresh.lookahead_eq]
    exact hI.absorbed { decoder := d } [] rfl (hI.fresh policy w d hready)

theorem upholds_resolve (hF : F.Reticent) (hI : F.Inductive resource I)
    {r : Reader ω σ P} (h : r.Upholds resource I os) :
    (r.resolve F).value.Upholds resource I (os ++ Event.outcomes (r.resolve F).events) := by
  cases h with
  | @opening policy w hnone =>
    subst hnone
    exact upholds_resolve_opening hF hI policy w
  | streaming hstamped hresource hinv =>
    rw [resolve_streaming rfl]
    exact .streaming hstamped hresource ((List.append_nil os).symm ▸ hinv)
  | failed => exact .failed

theorem upholds_next (hF : F.Reticent) (hI : F.Inductive resource I)
    {r : Reader ω σ P} (hsettled : r.Settled) (h : r.Upholds resource I os) :
    (r.next F).value.2.Upholds resource I (os ++ Event.outcomes (r.next F).events) := by
  cases h with
  | opening => rcases hsettled with ⟨s, hs⟩ | ⟨crashed, hfailed⟩ <;> contradiction
  | failed => exact .failed
  | @streaming policy s hstamped hresource hinv =>
    have hpull := (Stream.lookahead_advance (D := F.toDecoder) hstamped).2
    rw [next_streaming rfl]
    refine .streaming (Stream.stamped_advance hstamped)
      ((Stream.resource_advance hstamped).trans hresource) ?_
    rw [hpull, Stream.outcomes_advance hF.decode hstamped, hresource]
    by_cases hactive : s.state = .active
    · rw [if_pos hactive, Lookahead.pull_of_active hactive]
      exact hI.absorbed s.lookahead os hactive hinv
    · rw [if_neg hactive, Lookahead.pull_of_inactive hactive, List.append_nil]
      exact hI.ended s.lookahead os hactive hinv

theorem events_call_resolve (r : Reader ω σ P) {c : ReaderCall} (hc : c ≠ .resource) :
    (r.call F c).events = (r.resolve F).events ++ ((r.resolve F).value.call F c).events := by
  have hsettled := resolve_settled (F := F) (settled_resolve (F := F) r)
  cases c with
  | openWait =>
    unfold call openWait
    rw [hsettled]
    dsimp only
    split <;> exact (List.append_nil _).symm
  | nextTime =>
    unfold call nextTime
    rw [hsettled]
    dsimp only
    split <;> exact (List.append_nil _).symm
  | next =>
    unfold call next
    rw [hsettled]
    dsimp only
    split
    · rfl
    · exact (List.append_nil _).symm
  | resource => exact absurd rfl hc

theorem events_call_of_ne_next {r : Reader ω σ P} (h : r.Settled) {c : ReaderCall}
    (hc : c ≠ .next) : (r.call F c).events = [] := by
  cases c with
  | openWait =>
    have hevents := (openWait_eq (F := F) r).1
    rw [resolve_settled h] at hevents
    exact hevents
  | nextTime =>
    show (r.nextTime F).events = []
    unfold nextTime
    rw [resolve_settled h]
    dsimp only
    split <;> rfl
  | next => exact absurd rfl hc
  | resource => rfl

theorem upholds_format_call (hF : F.Reticent) (hI : F.Inductive resource I)
    {r : Reader ω σ P} (h : r.Upholds resource I os) (c : ReaderCall) :
    (r.call F c).value.2.Upholds resource I (os ++ Event.outcomes (r.call F c).events) := by
  by_cases hc : c = .resource
  · subst hc
    exact (List.append_nil os).symm ▸ h
  · have hresolved := upholds_resolve hF hI h
    have hsettled := settled_resolve (F := F) r
    rw [value_call_resolve r hc, events_call_resolve r hc, Event.outcomes_append,
      ← List.append_assoc]
    by_cases hnext : c = .next
    · subst hnext
      exact upholds_next hF hI hsettled hresolved
    · rw [(call_of_ne_next hsettled hnext).1, events_call_of_ne_next hsettled hnext]
      exact (List.append_nil _).symm ▸ hresolved

theorem upholds_call (hF : F.Reticent) (hI : Lookahead.Inductive F.toDecoder resource I)
    {r : Reader ω σ P} (h : r.Upholds resource I os) (c : ReaderCall) :
    (r.call F c).value.2.Upholds resource I (os ++ Event.outcomes (r.call F c).events) :=
  upholds_format_call hF hI.format h c

theorem streaming_of_nextTime {r : Reader ω σ P} {time : Option UInt32}
    (h : (r.nextTime F).value.1 = .ok time) :
    ∃ s, (r.nextTime F).value.2.phase = .streaming s ∧ s.nextTime = time := by
  unfold nextTime at h ⊢
  generalize r.resolve F = t at h ⊢
  obtain ⟨events, r'⟩ := t
  dsimp only at h ⊢
  split at h
  · rename_i s hs
    rw [hs]
    cases h
    exact ⟨s, rfl, rfl⟩
  · cases h

end Reader
end RoutingDump
