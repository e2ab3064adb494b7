import RoutingDump.Proofs.Ascii.TextDump
import RoutingDump.Proofs.Opening.Log
import RoutingDump.Proofs.Reader.Opened

/-!
# What an open comes to

The first call that waits receives what the opener has come to: how often the factory was called,
how long was waited in between, what was reported, and whether there is a stream. All of it is
given by the answers of the factory, up to the first one that is no failure.
-/

namespace RoutingDump

variable {ω σ P : Type}

namespace Decoder

/-- The decoder `d` makes two records one after the other, and is `d'` then. -/
def Makes (D : Decoder σ P) (d d' : σ) : Prop :=
  ∃ first d₁ second, D.create d = (.made first, d₁) ∧ D.create d₁ = (.made second, d')

def MakesRecords (D : Decoder σ P) (d : σ) : Prop := ∃ d', D.Makes d d'

/-- The decoder has made its records and crashes where it is called for the first message. -/
def CrashesFirst (D : Decoder σ P) (resource : Resource) (d : σ) : Prop :=
  ∃ d', D.Makes d d' ∧ D.crashesFirst d' { origin := resource.origin } = true

variable {D : Decoder σ P} {resource : Resource} {d d' : σ}

theorem Makes.unique {d'' : σ} (h : D.Makes d d') (h' : D.Makes d d'') : d' = d'' := by
  obtain ⟨first, d₁, second, hfirst, hsecond⟩ := h
  obtain ⟨first', d₁', second', hfirst', hsecond'⟩ := h'
  cases hfirst.symm.trans hfirst'
  cases hsecond.symm.trans hsecond'
  rfl

theorem not_makesRecords_of_first (h : ∀ body, (D.create d).1 ≠ .made body) :
    ¬ D.MakesRecords d := by
  rintro ⟨d', first, d₁, second, hfirst, -⟩
  exact h first (congrArg Prod.fst hfirst)

theorem not_makesRecords_of_second {first : Body P} {d₁ : σ}
    (hfirst : D.create d = (.made first, d₁)) (h : ∀ body, (D.create d₁).1 ≠ .made body) :
    ¬ D.MakesRecords d := by
  rintro ⟨d', first', d₁', second, hfirst', hsecond⟩
  cases hfirst.symm.trans hfirst'
  exact h second (congrArg Prod.fst hsecond)

end Decoder

theorem Buffer.allocate_cases {D : Decoder σ P} (resource : Resource) (d : σ) :
    (∃ buffer d', allocate D resource d = (.made buffer, d') ∧ D.Makes d d') ∨
      (∃ e d', allocate D resource d = (.failed e, d') ∧ ¬ D.MakesRecords d) ∨
        ∃ d', allocate D resource d = (.crashed, d') ∧ ¬ D.MakesRecords d := by
  unfold allocate
  rcases hfirst : D.create d with ⟨first | e | _, d₁⟩
  · dsimp only
    rcases hsecond : D.create d₁ with ⟨second | e | _, d₂⟩
    · exact .inl ⟨_, d₂, rfl, first, d₁, second, hfirst, hsecond⟩
    · exact .inr (.inl ⟨e, d₂, rfl,
        Decoder.not_makesRecords_of_second hfirst (by rw [hsecond]; nofun)⟩)
    · exact .inr (.inr ⟨d₂, rfl,
        Decoder.not_makesRecords_of_second hfirst (by rw [hsecond]; nofun)⟩)
  · exact .inr (.inl ⟨e, d₁, rfl, Decoder.not_makesRecords_of_first (by rw [hfirst]; nofun)⟩)
  · exact .inr (.inr ⟨d₁, rfl, Decoder.not_makesRecords_of_first (by rw [hfirst]; nofun)⟩)

namespace Opener

variable {F : Format ω σ P} {policy : RetryPolicy} {resource : Resource} {w : ω}
  {errors : List DecoderError}

/-- All that the seeding of a decoder can come to. -/
inductive Seeded (D : Decoder σ P) (resource : Resource) (d : σ) : Traced P (Handover σ P) → Prop
  | failed {e : DecoderError} (hnone : ¬ D.MakesRecords d) :
    Seeded D resource d
      { events := [.notice (.allocationFailed resource.url e)], value := .cannotOpen }
  | crashed (hnone : ¬ D.MakesRecords d) :
    Seeded D resource d { events := [], value := .nothing }
  | crashedFirst {built : Stream σ P} (hcrash : D.CrashesFirst resource d) :
    Seeded D resource d { events := built.crash D, value := .nothing }
  | opened {built : Stream σ P} (hmakes : D.MakesRecords d)
    (hanswers : ¬ D.CrashesFirst resource d) :
    Seeded D resource d
      { events := (built.prefetch D).events ++ firstFailure resource.url (built.prefetch D).value.1
        value := .stream (built.prefetch D).value.2 }

theorem seeded (D : Decoder σ P) (resource : Resource) (d : σ) :
    Seeded D resource d (seed D resource d) := by
  rcases Buffer.allocate_cases (D := D) resource d with
    ⟨buffer, d', hallocate, hmakes⟩ | ⟨e, d', hallocate, hnone⟩ | ⟨d', hallocate, hnone⟩
  · cases hfirst : D.crashesFirst d' { origin := resource.origin } with
    | false =>
      rw [seed_eq hallocate hfirst]
      refine .opened ⟨d', hmakes⟩ ?_
      rintro ⟨d'', hmakes', hcrash⟩
      rw [hmakes'.unique hmakes, hfirst] at hcrash
      cases hcrash
    | true =>
      rw [seed_of_first_crash hallocate hfirst]
      exact .crashedFirst ⟨d', hmakes, hfirst⟩
  · rw [seed_of_failed hallocate]
    exact .failed hnone
  · rw [seed_of_crashed hallocate]
    exact .crashed hnone

theorem seed_stream_iff {d : σ} :
    (∃ s, (seed F.toDecoder resource d).value = .stream s) ↔
      F.MakesRecords d ∧ ¬ F.CrashesFirst resource d := by
  have hseeded := seeded F.toDecoder resource d
  generalize seed F.toDecoder resource d = t at hseeded ⊢
  cases hseeded with
  | failed hnone | crashed hnone =>
    refine iff_of_false ?_ fun h => hnone h.1
    rintro ⟨s, hs⟩
    cases hs
  | crashedFirst hcrash =>
    refine iff_of_false ?_ fun h => h.2 hcrash
    rintro ⟨s, hs⟩
    cases hs
  | opened hmakes hanswers => exact iff_of_true ⟨_, rfl⟩ ⟨hmakes, hanswers⟩

theorem pace_crash (D : Decoder σ P) (s : Stream σ P) : Event.pace (s.crash D) = [] :=
  Event.pace_notices _

theorem pace_prefetch (D : Decoder σ P) (s : Stream σ P) :
    Event.pace (s.prefetch D).events = [] :=
  Event.pace_notices _

theorem pace_seed (d : σ) : Event.pace (seed F.toDecoder resource d).events = [] := by
  have hseeded := seeded F.toDecoder resource d
  generalize seed F.toDecoder resource d = t at hseeded ⊢
  cases hseeded with
  | failed | crashed => rfl
  | @crashedFirst built => exact pace_crash F.toDecoder built
  | @opened built =>
    show Event.pace ((built.prefetch F.toDecoder).events ++ _) = []
    rw [Event.pace_append, pace_prefetch, firstFailure]
    split <;> rfl

theorem reporter_absorb {s : Stream σ P} {a : Decoded σ P} {n : Notice}
    (hn : n ∈ (s.absorb a).2) : n.reporter = .buffer := by
  unfold Stream.absorb at hn
  dsimp only at hn
  split at hn
  · cases hn
  · split at hn
    · cases hn
    · split at hn
      · cases hn
      · split at hn
        · cases List.mem_singleton.mp hn
          rfl
        · cases hn

/-- What a discreet decoder leaves to the opener to say about its first message. -/
theorem mem_notices_seed (h : F.Discreet) {d : σ} {n : Notice}
    (hn : n ∈ Event.notices (seed F.toDecoder resource d).events) (hopener : n.reporter = .opener) :
    (∃ e, n = .allocationFailed resource.url e) ∨ ∃ e, n = .firstPrefetchFailed e := by
  have hseeded := seeded F.toDecoder resource d
  generalize seed F.toDecoder resource d = t at hseeded hn
  cases hseeded with
  | failed => exact .inl ⟨_, List.mem_singleton.mp hn⟩
  | crashed => cases hn
  | @crashedFirst built =>
    change n ∈ Event.notices (List.map Event.notice _) at hn
    rw [Event.notices_notices] at hn
    exact absurd hopener (h.decode _ _ n hn)
  | @opened built =>
    change n ∈ Event.notices ((built.prefetch F.toDecoder).events ++ firstFailure _ _) at hn
    rw [Event.notices_append, List.mem_append] at hn
    rcases hn with hn | hn
    · rw [Stream.prefetch] at hn
      change n ∈ Event.notices (List.map Event.notice _) at hn
      rw [Event.notices_notices, List.mem_append, List.mem_cons] at hn
      rcases hn with hn | rfl | hn
      · exact absurd hopener (h.decode _ _ n hn)
      · cases hopener
      · cases (reporter_absorb hn).symm.trans hopener
    · rw [firstFailure] at hn
      split at hn
      · exact .inr ⟨_, List.mem_singleton.mp hn⟩
      · cases hn

theorem pace_run (h : F.Settles w policy.attempts errors) :
    Event.pace (run F policy resource (fun _ => false) w).events =
      tries policy (min (errors.length + 1) policy.attempts - 1) ++ [.attempt] := by
  rcases h.ends with hall | ⟨hlt, ⟨d, hd⟩ | hcrash⟩
  · rw [(run_of_gaveUp resource h.fails hall).1, Event.pace_append, pace_failures, hall,
      Nat.min_eq_right (Nat.le_succ _), tries_attempts]
    exact List.append_nil _
  · rw [(run_of_opened resource h.fails hlt hd).1, Event.pace_append, Event.pace_append,
      pace_failures, pace_seed, success, Event.pace_append, pace_called, Nat.min_eq_left hlt]
    rfl
  · rw [(run_of_crashed resource h.fails hlt hcrash).1, Event.pace_append, pace_failures,
      pace_called, Nat.min_eq_left hlt]
    rfl

theorem run_stream_iff (h : F.Settles w policy.attempts errors) :
    (∃ s, (run F policy resource (fun _ => false) w).value.1 = .stream s) ↔
      ∃ i < policy.attempts, (∀ j < i, ∃ e, (F.response w j).attempt = .failed e) ∧
        ∃ d, (F.response w i).attempt = .opened d ∧
          F.MakesRecords d ∧ ¬ F.CrashesFirst resource d := by
  have hfirst : ∀ {i d}, i < policy.attempts →
      (∀ j < i, ∃ e, (F.response w j).attempt = .failed e) →
      (F.response w i).attempt = .opened d → i = errors.length := by
    intro i d hi hbefore hd
    exact h.eq_length hi hbefore fun e he => by cases hd.symm.trans he
  rcases h.ends with hall | ⟨hlt, ⟨d, hd⟩ | hcrash⟩
  · rw [(run_of_gaveUp resource h.fails hall).2]
    refine iff_of_false ?_ ?_
    · rintro ⟨s, hs⟩
      cases hs
    · rintro ⟨i, hi, hbefore, d, hd, -⟩
      have := hfirst hi hbefore hd
      omega
  · rw [(run_of_opened resource h.fails hlt hd).2, seed_stream_iff]
    constructor
    · intro hmakes
      exact ⟨errors.length, hlt, fun j hj => h.fails.exists_error hj, d, hd, hmakes⟩
    · rintro ⟨i, hi, hbefore, d', hd', hmakes⟩
      obtain rfl := hfirst hi hbefore hd'
      cases hd.symm.trans hd'
      exact hmakes
  · rw [(run_of_crashed resource h.fails hlt hcrash).2]
    refine iff_of_false ?_ ?_
    · rintro ⟨s, hs⟩
      cases hs
    · rintro ⟨i, hi, hbefore, d, hd, -⟩
      obtain rfl := hfirst hi hbefore hd
      cases hcrash.symm.trans hd

end Opener

namespace Reader

variable {F : Format ω σ P} {policy : RetryPolicy} {resource : Resource} {w : ω}
  {errors : List DecoderError}

/-- What a reader says when it receives what its opener hands over. -/
def receipt (url : String) : Handover σ P → List Notice
  | .stream _ => [.ready url]
  | .cannotOpen => []
  | .nothing => [.openerSilent url]

theorem events_openWait (F : Format ω σ P) (policy : RetryPolicy) (resource : Resource) (w : ω) :
    let run := Opener.run F policy resource (fun _ => false) w
    ((start resource policy w).openWait F).events =
      run.events ++ (receipt resource.url run.value.1).map .notice := by
  dsimp only
  rw [(openWait_eq _).1]
  unfold resolve start
  dsimp only
  generalize Opener.run F policy resource (fun _ => false) w = run
  obtain ⟨events, handover, w'⟩ := run
  cases handover with
  | stream s => rfl
  | cannotOpen => exact (List.append_nil events).symm
  | nothing => rfl

theorem openWait_ok_iff_stream :
    ((start resource policy w).openWait F).value.1 = .ok () ↔
      ∃ s, (Opener.run F policy resource (fun _ => false) w).value.1 = .stream s := by
  rw [openWait_ok_iff]
  constructor
  · rintro ⟨d, hready⟩
    obtain ⟨s, hs, -⟩ := Opener.run_ready hready
    exact ⟨s, hs⟩
  · rintro ⟨s, hs⟩
    cases hready : Opener.ready? F policy resource w with
    | none => exact absurd hs (Opener.run_not_ready hready s)
    | some d => exact ⟨d, rfl⟩

theorem notices_openWait :
    let run := Opener.run F policy resource (fun _ => false) w
    Event.notices ((start resource policy w).openWait F).events =
      Event.notices run.events ++ receipt resource.url run.value.1 := by
  rw [events_openWait, Event.notices_append, Event.notices_notices]

theorem pace_openWait (resource : Resource) (h : F.Settles w policy.attempts errors) :
    Event.pace ((start resource policy w).openWait F).events =
      Opener.tries policy (min (errors.length + 1) policy.attempts - 1) ++ [.attempt] := by
  rw [events_openWait, Event.pace_append, Event.pace_notices, List.append_nil, Opener.pace_run h]

theorem notices_of_gaveUp (h : F.FailsWith w errors) (hall : errors.length = policy.attempts) :
    Event.notices ((start resource policy w).openWait F).events =
      Opener.complaints F policy resource.url w errors ++
        [.gaveUp resource.url policy.attempts] := by
  obtain ⟨hevents, hvalue⟩ := Opener.run_of_gaveUp resource h hall
  rw [notices_openWait, hevents, hvalue, Event.notices_append, Opener.notices_failures]
  exact List.append_nil _

theorem notices_of_opened (h : F.FailsWith w errors) (hlt : errors.length < policy.attempts)
    {d : σ} (hd : (F.response w errors.length).attempt = .opened d) :
    Event.notices ((start resource policy w).openWait F).events =
      Opener.complaints F policy resource.url w errors ++
        ((F.response w errors.length).notices ++ .opened resource.url (errors.length + 1) ::
          (Event.notices (Opener.seed F.toDecoder resource d).events ++
            receipt resource.url (Opener.seed F.toDecoder resource d).value)) := by
  obtain ⟨hevents, hvalue⟩ := Opener.run_of_opened resource h hlt hd
  rw [notices_openWait, hevents, hvalue, Event.notices_append, Opener.notices_failures,
    Event.notices_append, Opener.success, Event.notices_append, Opener.notices_called,
    List.append_assoc, List.append_assoc, List.append_assoc]
  rfl

theorem notices_of_crashed (h : F.FailsWith w errors) (hlt : errors.length < policy.attempts)
    (hcrash : (F.response w errors.length).attempt = .crashed) :
    Event.notices ((start resource policy w).openWait F).events =
      Opener.complaints F policy resource.url w errors ++
        ((F.response w errors.length).notices ++ [.openerSilent resource.url]) := by
  obtain ⟨hevents, hvalue⟩ := Opener.run_of_crashed resource h hlt hcrash
  rw [notices_openWait, hevents, hvalue, Event.notices_append, Opener.notices_failures,
    List.append_assoc, Opener.notices_called]
  rfl

/-- Behind the complaints nothing is warned of, and giving up is reported at their end only. -/
theorem notices_behind (resource : Resource) (h : F.Settles w policy.attempts errors)
    (hF : F.Discreet) :
    ∃ rest, Event.notices ((start resource policy w).openWait F).events =
        Opener.complaints F policy resource.url w errors ++ rest ∧
      (∀ n ∈ rest, Opener.isWarning n = false) ∧
      (.gaveUp resource.url policy.attempts ∈ rest ↔ errors.length = policy.attempts) := by
  have hcall : ∀ n ∈ (F.response w errors.length).notices, n.reporter ≠ .opener := hF.attempt _
  have hreceipt : ∀ (handover : Handover σ P), ∀ n ∈ receipt resource.url handover,
      n.reporter ≠ .opener := by
    intro handover n hn
    cases handover <;> simp only [receipt, List.mem_singleton, List.not_mem_nil] at hn
    · rw [hn]; nofun
    · rw [hn]; nofun
  rcases h.ends with hall | ⟨hlt, ⟨d, hd⟩ | hcrash⟩
  · refine ⟨_, notices_of_gaveUp h.fails hall, fun n hn => ?_, iff_of_true ?_ hall⟩
    · cases List.mem_singleton.mp hn
      rfl
    · exact List.mem_singleton_self _
  · refine ⟨_, notices_of_opened h.fails hlt hd, fun n hn => ?_,
      iff_of_false (fun hn => ?_) (Nat.ne_of_lt hlt)⟩
    · rw [List.mem_append, List.mem_cons, List.mem_append] at hn
      rcases hn with hn | rfl | hn | hn
      · exact Opener.not_isWarning (hcall n hn)
      · rfl
      · by_cases hopener : n.reporter = .opener
        · rcases Opener.mem_notices_seed hF hn hopener with ⟨e, rfl⟩ | ⟨e, rfl⟩ <;> rfl
        · exact Opener.not_isWarning hopener
      · exact Opener.not_isWarning (hreceipt _ n hn)
    · rw [List.mem_append, List.mem_cons, List.mem_append] at hn
      rcases hn with hn | hn | hn | hn
      · exact hcall _ hn rfl
      · cases hn
      · rcases Opener.mem_notices_seed hF hn rfl with ⟨e, he⟩ | ⟨e, he⟩ <;> cases he
      · exact hreceipt _ _ hn rfl
  · refine ⟨_, notices_of_crashed h.fails hlt hcrash, fun n hn => ?_,
      iff_of_false (fun hn => ?_) (Nat.ne_of_lt hlt)⟩
    · rw [List.mem_append, List.mem_singleton] at hn
      rcases hn with hn | rfl
      · exact Opener.not_isWarning (hcall n hn)
      · rfl
    · rw [List.mem_append, List.mem_singleton] at hn
      rcases hn with hn | hn
      · exact hcall _ hn rfl
      · cases hn

/-- What the first wait of a reader comes to, where `errors` are the failures in front of the first
call of the factory that does not fail. -/
structure Opening (F : Format ω σ P) (policy : RetryPolicy) (resource : Resource) (w : ω)
    (errors : List DecoderError) (t : Traced P (Except ReaderError Unit × Reader ω σ P)) :
    Prop where
  settles : F.Settles w policy.attempts errors
  attempts_eq : Event.attempts t.events = min (errors.length + 1) policy.attempts
  /-- Between an attempt and the next one there is one wait, and none after the last one. -/
  pace_eq : Event.pace t.events =
    ((List.range (Event.attempts t.events - 1)).flatMap fun i =>
      .attempt :: (policy.backoff (i + 1)).toList.map .wait) ++ [.attempt]
  waits : ∀ i, i + 1 < Event.attempts t.events → ∃ d, policy.backoff (i + 1) = some d
  opened_iff : t.value.1 = .ok () ↔
    ∃ i < policy.attempts, (∀ j < i, ∃ e, (F.response w j).attempt = .failed e) ∧
      ∃ d, (F.response w i).attempt = .opened d ∧
        F.MakesRecords d ∧ ¬ F.CrashesFirst resource d
  /-- Where no decode call crashes, the factory and the making of the records decide. -/
  opened_iff_of_steady : (∀ d record, F.crashesFirst d record = false) →
    (t.value.1 = .ok () ↔
      ∃ i < policy.attempts, (∀ j < i, ∃ e, (F.response w j).attempt = .failed e) ∧
        ∃ d, (F.response w i).attempt = .opened d ∧ F.MakesRecords d)
  log_gaveUp : errors.length = policy.attempts →
    Event.notices t.events = Opener.complaints F policy resource.url w errors ++
      [.gaveUp resource.url policy.attempts]
  log_opened : errors.length < policy.attempts →
    ∀ d, (F.response w errors.length).attempt = .opened d →
      Event.notices t.events = Opener.complaints F policy resource.url w errors ++
        ((F.response w errors.length).notices ++ .opened resource.url (errors.length + 1) ::
          (Event.notices (Opener.seed F.toDecoder resource d).events ++
            receipt resource.url (Opener.seed F.toDecoder resource d).value))
  log_crashed : errors.length < policy.attempts →
    (F.response w errors.length).attempt = .crashed →
      Event.notices t.events = Opener.complaints F policy resource.url w errors ++
        ((F.response w errors.length).notices ++ [.openerSilent resource.url])
  /-- One warning for every failed attempt, numbered from one. -/
  warnings_eq : F.Discreet →
    (Event.notices t.events).filter Opener.isWarning =
      errors.mapIdx fun i e => .attemptFailed resource.url (i + 1) policy.attempts e
  gaveUp_iff : F.Discreet →
    (.gaveUp resource.url policy.attempts ∈ Event.notices t.events ↔
      errors.length = policy.attempts)

theorem open_result (F : Format ω σ P) (policy : RetryPolicy) (resource : Resource) (w : ω) :
    ∃ errors, Opening F policy resource w errors ((start resource policy w).openWait F) := by
  obtain ⟨errors, hsettles⟩ := F.exists_settles w policy.attempts
  have hpace := pace_openWait resource hsettles
  have hattempts : Event.attempts ((start resource policy w).openWait F).events =
      min (errors.length + 1) policy.attempts := by
    have hpos : 1 ≤ policy.attempts := Nat.le_max_left _ _
    rw [Event.attempts_eq_countP_pace, hpace, List.countP_append, Opener.countP_tries]
    exact Nat.sub_add_cancel (Nat.le_min.mpr ⟨Nat.succ_pos _, hpos⟩)
  have hopened : ((start resource policy w).openWait F).value.1 = .ok () ↔ _ :=
    openWait_ok_iff_stream.trans (Opener.run_stream_iff hsettles)
  refine ⟨errors, ?_⟩
  constructor
  case settles => exact hsettles
  case attempts_eq => exact hattempts
  case pace_eq =>
    rw [hpace, hattempts]
    rfl
  case waits =>
    intro i hi
    rw [hattempts] at hi
    exact RetryPolicy.exists_backoff (by omega)
  case opened_iff => exact hopened
  case opened_iff_of_steady =>
    intro hsteady
    have hanswers (d : σ) : ¬ F.CrashesFirst resource d := by
      rintro ⟨d', -, hcrash⟩
      rw [hsteady] at hcrash
      cases hcrash
    simpa only [hanswers, not_false_eq_true, and_true] using hopened
  case log_gaveUp => exact notices_of_gaveUp hsettles.fails
  case log_opened => exact fun hlt d hd => notices_of_opened hsettles.fails hlt hd
  case log_crashed => exact notices_of_crashed hsettles.fails
  case warnings_eq =>
    intro hF
    obtain ⟨rest, hnotices, hquiet, -⟩ := notices_behind resource hsettles hF
    rw [hnotices, List.filter_append, Opener.warnings_complaints hF,
      List.filter_eq_nil_iff.mpr fun n hn => by rw [hquiet n hn]; nofun, List.append_nil]
  case gaveUp_iff =>
    intro hF
    obtain ⟨rest, hnotices, -, hgaveUp⟩ := notices_behind resource hsettles hF
    rw [hnotices, List.mem_append, hgaveUp]
    exact or_iff_right (Opener.gaveUp_not_mem_complaints fun w hn => hF.attempt w _ hn rfl)

/-- A file that is not there is tried for as often as the policy says. -/
theorem open_result_missing_file :
    let resource : Resource :=
      { url := "gone", project := "p", collector := "c", recordType := .ribs, initialTime := 0 }
    let policy : RetryPolicy := { maxAttempts := 3 }
    let F := Ascii.fileFormat resource {}
    let opened := (start resource policy (FileTree.empty 0)).openWait F
    let e := DecoderError.cannotOpen "gone" .noEntry
    F.Discreet ∧ (∀ d record, F.crashesFirst d record = false) ∧
      opened.value.1 = .error (.cannotOpen "gone") ∧
      Event.waits opened.events = [{ secs := 10, nanos := 0 }, { secs := 20, nanos := 0 }] ∧
      (Event.notices opened.events).filter Opener.isWarning =
        [.attemptFailed "gone" 1 3 e, .attemptFailed "gone" 2 3 e, .attemptFailed "gone" 3 3 e] ∧
      ∃ errors, Opening F policy resource (FileTree.empty 0) errors opened ∧
        errors.length = 3 := by
  intro resource policy F opened e
  have hF : F.Discreet := Ascii.discreet_fileFormat resource {}
  have hvalue : opened.value.1 = .error (.cannotOpen "gone") := by decide +kernel
  have hwaits : Event.waits opened.events =
      [{ secs := 10, nanos := 0 }, { secs := 20, nanos := 0 }] := by decide +kernel
  have hgaveUp : .gaveUp "gone" 3 ∈ Event.notices opened.events := by decide +kernel
  have hwarnings : (Event.notices opened.events).filter Opener.isWarning =
      [.attemptFailed "gone" 1 3 e, .attemptFailed "gone" 2 3 e, .attemptFailed "gone" 3 3 e] := by
    decide +kernel
  obtain ⟨errors, hopening⟩ := open_result F policy resource (FileTree.empty 0)
  exact ⟨hF, fun _ _ => rfl, hvalue, hwaits, hwarnings, errors, hopening,
    (hopening.gaveUp_iff hF).mp hgaveUp⟩

end Reader
end RoutingDump
