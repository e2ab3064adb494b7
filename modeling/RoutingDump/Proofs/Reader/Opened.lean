import RoutingDump.Proofs.Stream.Trace
import RoutingDump.Reader.Call

/-!
# Readers whose open succeeded

An open succeeds if some attempt gives a decoder, the decoder makes both records and does not crash
where it is called for the first message. `ready?` is the decoder in front of that call. It decides
what the reader receives: a stream that has taken in the first answer, or nothing to read from.
-/

namespace RoutingDump

variable {ω σ P : Type}

namespace Opener

/-- The decoder that is about to answer for the first message, if the open succeeds. -/
def ready? (F : Format ω σ P) (policy : RetryPolicy) (resource : Resource) (w : ω) : Option σ :=
  match (retry F policy resource.url (fun _ => false) policy.attempts 1 w).value.1 with
  | .opened decoder =>
    match Buffer.allocate F.toDecoder resource decoder with
    | (.made _, d) => if F.crashesFirst d { origin := resource.origin } then none else some d
    | (.failed _, _) | (.crashed, _) => none
  | .gaveUp | .cancelled | .crashed => none

theorem ready?_of_opened {F : Format ω σ P} {policy : RetryPolicy} {resource : Resource} {w : ω}
    {decoder d : σ} {buffer : Buffer P} (hopened : (F.attempt w).attempt = .opened decoder)
    (hallocate : Buffer.allocate F.toDecoder resource decoder = (.made buffer, d))
    (hfirst : F.crashesFirst d { origin := resource.origin } = false) :
    ready? F policy resource w = some d := by
  obtain ⟨left, hleft⟩ : ∃ left, policy.attempts = left + 1 :=
    ⟨policy.attempts - 1, by unfold RetryPolicy.attempts; omega⟩
  unfold ready?
  rw [hleft, retry]
  dsimp only
  rw [hopened]
  dsimp only
  rw [hallocate]
  exact if_neg (Bool.eq_false_iff.mp hfirst)

end Opener

namespace Stream

/-- A stream as the opener builds it, before the first message is decoded. -/
structure Built (D : Decoder σ P) (resource : Resource) (d : σ) (s : Stream σ P) : Prop where
  allocated : ∃ decoder buffer, Buffer.allocate D resource decoder = (.made buffer, d) ∧
    s = { resource := resource, decoder := d, buffer := buffer }

/-- A stream as the opener hands it over: the first answer has been taken in. -/
structure Fresh (D : Decoder σ P) (resource : Resource) (d : σ) (s : Stream σ P) : Prop where
  resource_eq : s.resource = resource
  stamped : s.Stamped
  lookahead_eq : s.lookahead = Lookahead.opened D resource d
  ahead_eq : s.buffer.ahead = .left

end Stream

theorem Opener.allocate_ok {D : Decoder σ P} {resource : Resource} {decoder d : σ}
    {buffer : Buffer P} (h : Buffer.allocate D resource decoder = (.made buffer, d)) :
    buffer.Stamped resource.origin ∧ buffer.prefetch.filled = false ∧ buffer.ahead = .left := by
  unfold Buffer.allocate at h
  split at h
  · cases h
  · cases h
  · split at h
    · cases h
    · cases h
    · cases h
      refine ⟨fun side => ?_, rfl, rfl⟩
      cases side <;> rfl

namespace Stream.Built

variable {D : Decoder σ P} {resource : Resource} {d : σ} {s : Stream σ P}

theorem resource_eq (h : s.Built D resource d) : s.resource = resource := by
  obtain ⟨decoder, buffer, -, rfl⟩ := h.allocated
  rfl

theorem stamped (h : s.Built D resource d) : s.Stamped := by
  obtain ⟨decoder, buffer, hallocate, rfl⟩ := h.allocated
  exact (Opener.allocate_ok hallocate).1

theorem vacant (h : s.Built D resource d) : s.buffer.prefetch.filled = false := by
  obtain ⟨decoder, buffer, hallocate, rfl⟩ := h.allocated
  exact (Opener.allocate_ok hallocate).2.1

theorem ahead_eq (h : s.Built D resource d) : s.buffer.ahead = .left := by
  obtain ⟨decoder, buffer, hallocate, rfl⟩ := h.allocated
  exact (Opener.allocate_ok hallocate).2.2

theorem lookahead_eq (h : s.Built D resource d) : s.lookahead = { decoder := d } := by
  have hvacant := h.vacant
  obtain ⟨decoder, buffer, -, rfl⟩ := h.allocated
  unfold lookahead Slot.body?
  dsimp only at hvacant ⊢
  rw [hvacant]
  rfl

theorem fresh (h : s.Built D resource d) : (s.prefetch D).value.2.Fresh D resource d := by
  rw [value_prefetch h.stamped]
  constructor
  case resource_eq => exact (resource_absorb s _).trans h.resource_eq
  case stamped => exact stamped_absorb h.stamped _
  case lookahead_eq =>
    rw [lookahead_absorb _ h.vacant, h.lookahead_eq, h.resource_eq]
    rfl
  case ahead_eq =>
    rw [absorb_fst]
    exact (ahead_received s _).trans h.ahead_eq

theorem decodes_prefetch (h : s.Built D resource d) :
    Event.decodes (s.prefetch D).events = [(.left, { origin := resource.origin })] := by
  rw [Stream.decodes_prefetch h.stamped, h.ahead_eq, h.resource_eq]

end Stream.Built

namespace Opener

/-- What is said when the first message cannot be read. -/
def firstFailure (url : String) (outcome : Outcome) : List (Event P) :=
  if outcome = .readError then [.notice (.firstPrefetchFailed (.readFailed url))] else []

section Seeding

variable {D : Decoder σ P} {resource : Resource} {decoder d : σ} {buffer : Buffer P}

theorem seed_of_failed {e : DecoderError}
    (h : Buffer.allocate D resource decoder = (.failed e, d)) :
    seed D resource decoder =
      { events := [.notice (.allocationFailed resource.url e)], value := .cannotOpen } := by
  unfold seed
  rw [h]

theorem seed_of_crashed (h : Buffer.allocate D resource decoder = (.crashed, d)) :
    seed D resource decoder = { events := [], value := .nothing } := by
  unfold seed
  rw [h]

theorem clear_prefetch (h : Buffer.allocate D resource decoder = (.made buffer, d)) :
    buffer.prefetch.record.clear = { origin := resource.origin } := by
  rw [← (allocate_ok h).1 buffer.ahead]
  rfl

theorem seed_of_first_crash (h : Buffer.allocate D resource decoder = (.made buffer, d))
    (hfirst : D.crashesFirst d { origin := resource.origin } = true) :
    seed D resource decoder =
      { events := Stream.crash D { resource := resource, decoder := d, buffer := buffer }
        value := .nothing } := by
  unfold seed
  rw [h]
  dsimp only
  rw [clear_prefetch h, if_pos hfirst]

theorem seed_eq (h : Buffer.allocate D resource decoder = (.made buffer, d))
    (hfirst : D.crashesFirst d { origin := resource.origin } = false) :
    let first := ({ resource := resource, decoder := d, buffer := buffer } : Stream σ P).prefetch D
    seed D resource decoder =
      { events := first.events ++ firstFailure resource.url first.value.1
        value := .stream first.value.2 } := by
  unfold seed
  rw [h]
  dsimp only
  rw [clear_prefetch h, if_neg (Bool.eq_false_iff.mp hfirst)]
  rfl

end Seeding

/-- What attempts leave in a trace: calls of the factory, waits, and what the opener and the
factory say. -/
inductive OfAttempts (F : Format ω σ P) : Event P → Prop
  | attempt : OfAttempts F .attempt
  | wait (d : Duration) : OfAttempts F (.wait d)
  | opener {n : Notice} (hn : n.reporter = .opener) : OfAttempts F (.notice n)
  | factory {n : Notice} {w : ω} (hn : n ∈ (F.attempt w).notices) : OfAttempts F (.notice n)

theorem ofAttempts_retry (F : Format ω σ P) (policy : RetryPolicy) (url : String)
    (gone : Nat → Bool) (left attempt : Nat) (w : ω) :
    ∀ e ∈ (retry F policy url gone left attempt w).events, OfAttempts F e := by
  have hsaid {n : Notice} (hn : n.reporter = .opener) :
      ∀ e ∈ [.notice n], OfAttempts F e := List.forall_mem_singleton.mpr (.opener hn)
  induction left generalizing attempt w with
  | zero => exact hsaid rfl
  | succ left ih =>
    have hcalled : ∀ e ∈ .attempt :: (F.attempt w).notices.map .notice, OfAttempts F e := by
      refine List.forall_mem_cons.mpr ⟨.attempt, fun e he => ?_⟩
      obtain ⟨n, hn, rfl⟩ := List.mem_map.mp he
      exact .factory hn
    unfold retry
    dsimp only
    split
    · exact List.forall_mem_append.mpr ⟨hcalled, hsaid rfl⟩
    · exact hcalled
    · rename_i error _
      have hfailed := List.forall_mem_append.mpr
        ⟨hcalled, hsaid (n := .attemptFailed url attempt policy.attempts error) rfl⟩
      split
      · exact List.forall_mem_append.mpr ⟨hfailed, ih _ _⟩
      · rename_i d _
        split
        · exact List.forall_mem_append.mpr
            ⟨hfailed, List.forall_mem_cons.mpr ⟨.wait d, hsaid rfl⟩⟩
        · exact List.forall_mem_append.mpr
            ⟨hfailed, List.forall_mem_cons.mpr ⟨.wait d, ih _ _⟩⟩

theorem decodes_retry (F : Format ω σ P) (policy : RetryPolicy) (url : String) (gone : Nat → Bool)
    (left attempt : Nat) (w : ω) :
    Event.decodes (retry F policy url gone left attempt w).events = [] := by
  refine List.filterMap_eq_nil_iff.mpr fun e he => ?_
  cases ofAttempts_retry F policy url gone left attempt w e he <;> rfl

/-- The run of an opener that succeeds: the attempts, and a prefetch of the stream it builds. -/
theorem run_built {F : Format ω σ P} {policy : RetryPolicy} {resource : Resource} {w : ω} {d : σ}
    (h : ready? F policy resource w = some d) :
    ∃ built : Stream σ P, built.Built F.toDecoder resource d ∧
      let first := built.prefetch F.toDecoder
      (run F policy resource (fun _ => false) w).value.1 = .stream first.value.2 ∧
      (run F policy resource (fun _ => false) w).events =
        (retry F policy resource.url (fun _ => false) policy.attempts 1 w).events ++
          (first.events ++ firstFailure resource.url first.value.1) := by
  unfold ready? at h
  unfold run
  generalize retry F policy resource.url (fun _ => false) policy.attempts 1 w = t at h ⊢
  obtain ⟨events, retried, w'⟩ := t
  dsimp only at h ⊢
  cases retried with
  | opened decoder =>
    dsimp only at h
    split at h
    · rename_i buffer d' hallocate
      split at h
      · cases h
      · rename_i hfirst
        cases h
        refine ⟨_, ⟨decoder, buffer, hallocate, rfl⟩, ?_⟩
        dsimp only
        rw [seed_eq hallocate (Bool.eq_false_iff.mpr hfirst)]
        exact ⟨rfl, rfl⟩
    · cases h
    · cases h
  | gaveUp | cancelled | crashed => cases h

theorem run_ready {F : Format ω σ P} {policy : RetryPolicy} {resource : Resource} {w : ω} {d : σ}
    (h : ready? F policy resource w = some d) :
    ∃ s, (run F policy resource (fun _ => false) w).value.1 = .stream s ∧
      s.Fresh F.toDecoder resource d ∧
      Event.decodes (run F policy resource (fun _ => false) w).events =
        [(.left, { origin := resource.origin })] := by
  obtain ⟨built, hbuilt, hvalue, hevents⟩ := run_built h
  refine ⟨_, hvalue, hbuilt.fresh, ?_⟩
  rw [hevents, Event.decodes_append, Event.decodes_append, decodes_retry, hbuilt.decodes_prefetch,
    firstFailure]
  split <;> rfl

theorem run_not_ready {F : Format ω σ P} {policy : RetryPolicy} {resource : Resource} {w : ω}
    (h : ready? F policy resource w = none) (s : Stream σ P) :
    (run F policy resource (fun _ => false) w).value.1 ≠ .stream s := by
  unfold ready? at h
  unfold run
  generalize retry F policy resource.url (fun _ => false) policy.attempts 1 w = t at h ⊢
  obtain ⟨events, retried, w'⟩ := t
  dsimp only at h ⊢
  cases retried with
  | opened decoder =>
    dsimp only at h
    show (seed F.toDecoder resource decoder).value ≠ _
    split at h
    · rename_i hallocate
      split at h
      · rename_i hfirst
        rw [seed_of_first_crash hallocate hfirst]
        nofun
      · cases h
    · rename_i hallocate
      rw [seed_of_failed hallocate]
      nofun
    · rename_i hallocate
      rw [seed_of_crashed hallocate]
      nofun
  | gaveUp | cancelled | crashed => nofun

end Opener

namespace Reader

/-- What `n` pulls in a row give. -/
def pulls (F : Format ω σ P) (r : Reader ω σ P) (n : Nat) : List (Pull P) :=
  (r.calls F (List.replicate n .next)).value.1.filterMap ReaderAnswer.pull?

variable {F : Format ω σ P} {policy : RetryPolicy} {resource : Resource} {w : ω}

/-- A reader whose open succeeded receives the stream that the opener has built and prefetched. -/
theorem resolve_built {d : σ} (h : Opener.ready? F policy resource w = some d) :
    ∃ built : Stream σ P, built.Built F.toDecoder resource d ∧
      let first := built.prefetch F.toDecoder
      (start resource policy w).resolve F =
        { events :=
            (Opener.retry F policy resource.url (fun _ => false) policy.attempts 1 w).events ++
              (first.events ++ Opener.firstFailure resource.url first.value.1) ++
                [.notice (.ready resource.url)]
          value :=
            { resource := resource, policy := policy, phase := .streaming first.value.2 } } := by
  obtain ⟨built, hbuilt, hvalue, hevents⟩ := Opener.run_built h
  refine ⟨built, hbuilt, ?_⟩
  unfold resolve start
  dsimp only
  generalize Opener.run F policy resource (fun _ => false) w = t at hvalue hevents ⊢
  obtain ⟨events, handover, w'⟩ := t
  dsimp only at hvalue hevents
  subst hvalue hevents
  rfl

theorem resolve_ready {d : σ} (h : Opener.ready? F policy resource w = some d) :
    ∃ s, ((start resource policy w).resolve F).value =
        { resource := resource, policy := policy, phase := .streaming s } ∧
      s.Fresh F.toDecoder resource d ∧
      Event.decodes ((start resource policy w).resolve F).events =
        [(.left, { origin := resource.origin })] := by
  obtain ⟨built, hbuilt, hresolve⟩ := resolve_built h
  rw [hresolve]
  refine ⟨_, rfl, hbuilt.fresh, ?_⟩
  rw [Event.decodes_append, Event.decodes_append, Event.decodes_append, Opener.decodes_retry,
    hbuilt.decodes_prefetch, Opener.firstFailure]
  split <;> rfl

theorem resolve_not_ready (h : Opener.ready? F policy resource w = none) :
    ∃ crashed, ((start resource policy w).resolve F).value.phase = .failed crashed := by
  have hrun := Opener.run_not_ready h
  unfold resolve start
  dsimp only
  generalize Opener.run F policy resource (fun _ => false) w = t at hrun ⊢
  obtain ⟨events, handover, w'⟩ := t
  cases handover with
  | stream s => exact absurd rfl (hrun s)
  | cannotOpen => exact ⟨false, rfl⟩
  | nothing => exact ⟨true, rfl⟩

theorem openWait_ok_iff :
    ((start resource policy w).openWait F).value.1 = .ok () ↔
      ∃ d, Opener.ready? F policy resource w = some d := by
  unfold openWait
  cases hready : Opener.ready? F policy resource w with
  | none =>
    obtain ⟨crashed, hphase⟩ := resolve_not_ready hready
    generalize (start resource policy w).resolve F = t at hphase ⊢
    obtain ⟨events, r⟩ := t
    dsimp only at hphase ⊢
    rw [hphase]
    simp
  | some d =>
    obtain ⟨s, hvalue, -, -⟩ := resolve_ready hready
    generalize (start resource policy w).resolve F = t at hvalue ⊢
    obtain ⟨events, r⟩ := t
    dsimp only at hvalue ⊢
    subst hvalue
    simp

theorem resolve_streaming {r : Reader ω σ P} {s : Stream σ P} (h : r.phase = .streaming s) :
    r.resolve F = { events := [], value := r } := by
  unfold resolve
  rw [h]

theorem next_streaming {r : Reader ω σ P} {s : Stream σ P} (h : r.phase = .streaming s) :
    r.next F =
      { events := (s.advance F.toDecoder).events
        value := ((s.advance F.toDecoder).value.1,
          { r with phase := .streaming (s.advance F.toDecoder).value.2 }) } := by
  unfold next
  rw [resolve_streaming h]
  dsimp only
  rw [h]
  rfl

theorem disturb_streaming {r : Reader ω σ P} {s : Stream σ P} (h : r.phase = .streaming s)
    (before : ω → ω) (after : σ → σ) :
    r.disturb before after =
      { r with phase := .streaming { s with decoder := after s.decoder } } := by
  unfold disturb
  rw [h]

/-- What a pull gives does not depend on whether somebody has waited for the open before. -/
theorem value_next_resolve (r : Reader ω σ P) {s : Stream σ P}
    (h : (r.resolve F).value.phase = .streaming s) :
    (r.next F).value = ((r.resolve F).value.next F).value := by
  rw [next_streaming h]
  unfold next
  generalize r.resolve F = t at h ⊢
  obtain ⟨events, r'⟩ := t
  dsimp only at h ⊢
  rw [h]

theorem calls_streaming {r : Reader ω σ P} {s : Stream σ P} (h : r.phase = .streaming s)
    (n : Nat) :
    (r.calls F (List.replicate n .next)).value.1 =
        (s.pulls F.toDecoder n).value.1.map .pulled ∧
      (r.calls F (List.replicate n .next)).events = (s.pulls F.toDecoder n).events := by
  induction n generalizing r s with
  | zero => exact ⟨rfl, rfl⟩
  | succ n ih =>
    obtain ⟨hvalue, hevents⟩ :=
      ih (r := { r with phase := .streaming (s.advance F.toDecoder).value.2 }) rfl
    rw [List.replicate_succ]
    unfold calls call
    rw [next_streaming h]
    dsimp only
    rw [hvalue, hevents]
    exact ⟨rfl, rfl⟩

theorem value_calls_next (r : Reader ω σ P) (n : Nat) :
    (r.calls F (List.replicate (n + 1) .next)).value.1 =
      .pulled (r.next F).value.1 ::
        ((r.next F).value.2.calls F (List.replicate n .next)).value.1 := rfl

theorem pulls_ready {d : σ} (h : Opener.ready? F policy resource w = some d) (n : Nat) :
    (start resource policy w).pulls F n =
      (List.range n).map
        ((Lookahead.opened F.toDecoder resource d).pulled F.toDecoder resource) := by
  obtain ⟨s, hvalue, hfresh, -⟩ := resolve_ready h
  have hphase : ((start resource policy w).resolve F).value.phase = .streaming s := by rw [hvalue]
  have hresolve : ((start resource policy w).calls F (List.replicate n .next)).value.1 =
      (((start resource policy w).resolve F).value.calls F (List.replicate n .next)).value.1 := by
    cases n with
    | zero => rfl
    | succ n => rw [value_calls_next, value_calls_next, value_next_resolve _ hphase]
  have hpull? : ReaderAnswer.pull? ∘ ReaderAnswer.pulled = (some : Pull P → _) := rfl
  rw [pulls, hresolve, (calls_streaming hphase n).1, List.filterMap_map, hpull?,
    List.filterMap_some, Stream.pulls_eq_map hfresh.stamped, hfresh.lookahead_eq,
    hfresh.resource_eq]

theorem openWait_eq (r : Reader ω σ P) :
    (r.openWait F).events = (r.resolve F).events ∧
      (r.openWait F).value.2 = (r.resolve F).value := by
  unfold openWait
  generalize r.resolve F = t
  obtain ⟨events, r'⟩ := t
  dsimp only
  split <;> exact ⟨rfl, rfl⟩

/-- The decode calls of an open and `n` pulls: the first one is the opener's. -/
theorem decodes_ready {d : σ} (h : Opener.ready? F policy resource w = some d) (n : Nat) :
    Event.decodes
        ((start resource policy w).calls F (.openWait :: List.replicate n .next)).events =
      (.left, { origin := resource.origin }) ::
        ((List.range n).filter fun i => (((Lookahead.opened F.toDecoder resource d).after
          F.toDecoder resource i).state = .active)).map
            fun i => (Side.other^[i + 1] .left, { origin := resource.origin }) := by
  obtain ⟨s, hvalue, hfresh, hdecodes⟩ := resolve_ready h
  have hphase : ((start resource policy w).resolve F).value.phase = .streaming s := by rw [hvalue]
  obtain ⟨hevents, hnext⟩ := openWait_eq (F := F) (start resource policy w)
  show Event.decodes (((start resource policy w).openWait F).events ++
    (((start resource policy w).openWait F).value.2.calls F (List.replicate n .next)).events) = _
  rw [Event.decodes_append, hevents, hnext, hdecodes, (calls_streaming hphase n).2,
    Stream.decodes_pulls hfresh.stamped, hfresh.lookahead_eq, hfresh.resource_eq, hfresh.ahead_eq]
  rfl

end Reader
end RoutingDump
