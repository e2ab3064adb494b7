import RoutingDump.Opening.Race
import RoutingDump.Proofs.Opening.Attempts

/-!
# How far a race has come

However opener and reader interleave, the opener works through the attempts of an undisturbed run
until it ends as that run does, or is cancelled at a wait because the reader is gone. A race that
has come to an end has done what some run of the opener does.
-/

namespace RoutingDump

variable {ω σ P : Type}

/-- Whether it is the opener who moves. -/
def Move.byOpener : Move → Bool
  | .call | .answer | .elapse | .cancel | .seed => true
  | .ask | .receive | .drop => false

namespace Race

variable {F : Format ω σ P} {policy : RetryPolicy} {resource : Resource} {w : ω}

theorem run?_cons {r r' : Race ω σ P} {m : Move} {ms : List Move}
    (h : r.run? F policy resource (m :: ms) = some r') :
    ∃ r₁, r.move? F policy resource m = some r₁ ∧ r₁.run? F policy resource ms = some r' := by
  rw [run?] at h
  cases hmove : r.move? F policy resource m with
  | none =>
    rw [hmove] at h
    cases h
  | some r₁ =>
    rw [hmove] at h
    exact ⟨r₁, rfl, h⟩

theorem run?_append_cons {r r' : Race ω σ P} {front back : List Move} {m : Move}
    (h : r.run? F policy resource (front ++ m :: back) = some r') :
    ∃ r₁ r₂, r.run? F policy resource front = some r₁ ∧
      r₁.move? F policy resource m = some r₂ ∧ r₂.run? F policy resource back = some r' := by
  rw [run?_append] at h
  obtain ⟨r₁, hfront, h⟩ := Option.bind_eq_some_iff.mp h
  obtain ⟨r₂, hmove, hback⟩ := run?_cons h
  exact ⟨r₁, r₂, hfront, hmove, hback⟩

theorem run?_concat {r r' : Race ω σ P} {ms : List Move} {m : Move}
    (h : r.run? F policy resource (ms ++ [m]) = some r') :
    ∃ r₁, r.run? F policy resource ms = some r₁ ∧ r₁.move? F policy resource m = some r' := by
  obtain ⟨r₁, r₂, hrun, hmove, hend⟩ := run?_append_cons h
  cases hend
  exact ⟨r₁, hrun, hmove⟩

/-- How far a race has come that started with the surroundings `w`. -/
inductive Tracks (F : Format ω σ P) (policy : RetryPolicy) (resource : Resource) (w : ω) :
    Race ω σ P → Prop
  | before {errors : List DecoderError} (reader : Stance σ P) (hfails : F.FailsWith w errors)
      (hlt : errors.length < policy.attempts) :
      Tracks F policy resource w
        { surroundings := F.afterCalls w errors.length
          opener := .before (errors.length + 1)
          reader := reader
          events := Opener.failures F policy resource.url w errors }
  | calling {errors : List DecoderError} (reader : Stance σ P) (hfails : F.FailsWith w errors)
      (hlt : errors.length < policy.attempts) :
      Tracks F policy resource w
        { surroundings := F.afterCalls w errors.length
          opener := .calling (errors.length + 1)
          reader := reader
          events := Opener.failures F policy resource.url w errors ++ [.attempt] }
  | waiting {errors : List DecoderError} {e : DecoderError} (reader : Stance σ P)
      (hfails : F.FailsWith w (errors ++ [e])) (hlt : errors.length + 1 < policy.attempts) :
      Tracks F policy resource w
        { surroundings := F.afterCalls w (errors.length + 1)
          opener := .waiting (errors.length + 1)
          reader := reader
          events := Opener.failures F policy resource.url w (errors ++ [e]) }
  | holding {errors : List DecoderError} {d : σ} (reader : Stance σ P)
      (hfails : F.FailsWith w errors) (hlt : errors.length < policy.attempts)
      (hd : (F.response w errors.length).attempt = .opened d) :
      Tracks F policy resource w
        { surroundings := F.afterCalls w (errors.length + 1)
          opener := .holding d
          reader := reader
          events := Opener.failures F policy resource.url w errors ++
            Opener.success F resource.url w errors.length }
  | finished (reader : Stance σ P) (surroundings : ω) :
      Tracks F policy resource w
        { surroundings := surroundings
          opener := .finished (Opener.run F policy resource (fun _ => false) w).value.1
          reader := reader
          events := (Opener.run F policy resource (fun _ => false) w).events }
  | cancelled {errors : List DecoderError} {e : DecoderError}
      (hfails : F.FailsWith w (errors ++ [e])) (hlt : errors.length + 1 < policy.attempts) :
      Tracks F policy resource w
        { surroundings := F.afterCalls w (errors.length + 1)
          opener := .finished .cannotOpen
          reader := .dropped
          events := Opener.failures F policy resource.url w (errors ++ [e]) ++
            [.notice (.openCancelled resource.url)] }

theorem tracks_start : Tracks F policy resource w (start w : Race ω σ P) :=
  have h : Tracks F policy resource w _ :=
    .before .apart Format.failsWith_nil (Nat.le_max_left _ _)
  h

/-- The moves of the reader leave the opener where it is. -/
theorem Tracks.of_reader {r : Race ω σ P} (h : Tracks F policy resource w r)
    (hstays : r.reader ≠ .dropped) (reader : Stance σ P) :
    Tracks F policy resource w { r with reader := reader } := by
  cases h with
  | before _ hfails hlt => exact .before reader hfails hlt
  | calling _ hfails hlt => exact .calling reader hfails hlt
  | waiting _ hfails hlt => exact .waiting reader hfails hlt
  | holding _ hfails hlt hd => exact .holding reader hfails hlt hd
  | finished _ surroundings => exact .finished reader surroundings
  | cancelled => exact absurd rfl hstays

theorem tracks_hear {errors : List DecoderError} (reader : Stance σ P)
    (hfails : F.FailsWith w errors) (hlt : errors.length < policy.attempts) :
    Tracks F policy resource w
      (hear F policy resource.url
        { surroundings := F.afterCalls w errors.length
          opener := .calling (errors.length + 1)
          reader := reader
          events := Opener.failures F policy resource.url w errors ++ [.attempt] }
        (errors.length + 1)) := by
  have hcall : F.attempt (F.afterCalls w errors.length) = F.response w errors.length := rfl
  unfold hear advance
  dsimp only
  rw [hcall, ← F.afterCalls_succ]
  cases hattempt : (F.response w errors.length).attempt with
  | opened d =>
    have hnext : Tracks F policy resource w _ := .holding reader hfails hlt hattempt
    rw [Opener.success] at hnext
    simpa only [List.append_assoc, List.cons_append, List.nil_append] using hnext
  | crashed =>
    obtain ⟨hevents, hvalue⟩ := Opener.run_of_crashed resource hfails hlt hattempt
    have hnext : Tracks F policy resource w _ :=
      .finished reader (F.afterCalls w (errors.length + 1))
    rw [hevents, hvalue] at hnext
    simpa only [List.append_assoc, List.cons_append, List.nil_append] using hnext
  | failed e =>
    have hfailed := Format.failsWith_concat hfails hattempt
    dsimp only
    cases hbackoff : policy.backoff (errors.length + 1) with
    | some d =>
      have hlast : errors.length + 1 < policy.attempts := by
        have hne := (RetryPolicy.backoff_eq_none_iff_last hlt).not.mp (by rw [hbackoff]; nofun)
        omega
      have hnext : Tracks F policy resource w _ := .waiting reader hfailed hlast
      rw [Opener.failures_concat, Opener.failure, hbackoff] at hnext
      simpa using hnext
    | none =>
      -- There is no wait after the last attempt only.
      have hlast := (RetryPolicy.backoff_eq_none_iff_last hlt).mp hbackoff
      have hlength : (errors ++ [e]).length = policy.attempts := by
        rw [List.length_append, List.length_singleton, hlast]
      obtain ⟨hevents, hvalue⟩ := Opener.run_of_gaveUp resource hfailed hlength
      have hnext : Tracks F policy resource w _ :=
        .finished reader (F.afterCalls w (errors.length + 1))
      rw [hevents, hvalue, Opener.failures_concat, Opener.failure, hbackoff] at hnext
      rw [if_neg (by omega)]
      simpa using hnext

/-- One move. -/
theorem Tracks.move {r r' : Race ω σ P} {m : Move} (h : Tracks F policy resource w r)
    (hmove : r.move? F policy resource m = some r') : Tracks F policy resource w r' := by
  cases m with
  | call =>
    cases h with
    | before reader hfails hlt =>
      cases hmove
      exact .calling reader hfails hlt
    | _ => cases hmove
  | answer =>
    cases h with
    | calling reader hfails hlt =>
      cases hmove
      exact tracks_hear reader hfails hlt
    | _ => cases hmove
  | elapse =>
    cases h with
    | @waiting errors e reader hfails hlt =>
      simp only [move?] at hmove
      split at hmove
      · cases hmove
      · cases hmove
        have hlength : (errors ++ [e]).length = errors.length + 1 := List.length_append
        have hnext : Tracks F policy resource w _ := .before reader hfails (hlength ▸ hlt)
        rw [hlength] at hnext
        simpa only [advance, List.append_nil] using hnext
    | _ => cases hmove
  | cancel =>
    cases h with
    | waiting reader hfails hlt =>
      simp only [move?] at hmove
      split at hmove
      · rename_i hdropped
        cases hmove
        obtain rfl : reader = .dropped := isDropped_iff.mp hdropped
        exact .cancelled hfails hlt
      · cases hmove
    | _ => cases hmove
  | seed =>
    cases h with
    | @holding errors d reader hfails hlt hd =>
      cases hmove
      obtain ⟨hevents, hvalue⟩ := Opener.run_of_opened resource hfails hlt hd
      have hnext : Tracks F policy resource w _ :=
        .finished reader (F.afterCalls w (errors.length + 1))
      rw [hevents, hvalue, ← List.append_assoc] at hnext
      exact hnext
    | _ => cases hmove
  | ask | drop =>
    simp only [move?] at hmove
    split at hmove <;> cases hmove
    all_goals
      rename_i hreader
      exact h.of_reader (fun hdropped => by cases hreader.symm.trans hdropped) _
  | receive =>
    simp only [move?] at hmove
    split at hmove
    · rename_i hreader _
      cases hmove
      exact h.of_reader (fun hdropped => by cases hreader.symm.trans hdropped) _
    · cases hmove

/-- A run of moves. -/
theorem tracks_run {ms : List Move} {r : Race ω σ P}
    (h : (start w).run? F policy resource ms = some r) : Tracks F policy resource w r := by
  induction ms using List.reverseRecOn generalizing r with
  | nil =>
    cases h
    exact tracks_start
  | append_singleton ms m ih =>
    obtain ⟨r₁, hrun, hmove⟩ := run?_concat h
    exact (ih hrun).move hmove

theorem opener_of_not_byOpener {r r' : Race ω σ P} {m : Move} (hm : m.byOpener = false)
    (hmove : r.move? F policy resource m = some r') : r'.opener = r.opener := by
  cases m with
  | call | answer | seed | elapse | cancel => cases hm
  | ask | receive | drop =>
    simp only [move?] at hmove
    split at hmove <;> cases hmove
    all_goals rfl

/-! ### Every race comes to an end -/

/-- What an answer of the factory leads to. -/
theorem opener_hear {k : Nat} (hlt : k < policy.attempts) {url : String} (r : Race ω σ P) :
    (∃ d, (r.hear F policy url (k + 1)).opener = .holding d) ∨
      (∃ handover, (r.hear F policy url (k + 1)).opener = .finished handover) ∨
        (r.hear F policy url (k + 1)).opener = .waiting (k + 1) := by
  unfold hear
  dsimp only
  split
  · exact .inl ⟨_, rfl⟩
  · exact .inr (.inl ⟨_, rfl⟩)
  · split
    · exact .inr (.inr rfl)
    · rename_i hbackoff
      have hlast := (RetryPolicy.backoff_eq_none_iff_last hlt).mp hbackoff
      rw [if_neg (by omega)]
      exact .inr (.inl ⟨_, rfl⟩)

/-- How many moves an opener has made at most that stands at a station: three for each attempt. -/
def movesTo (policy : RetryPolicy) : Station σ P → Nat
  | .before attempt => 3 * (attempt - 1)
  | .calling attempt => 3 * (attempt - 1) + 1
  | .waiting attempt => 3 * (attempt - 1) + 2
  | .holding _ => 3 * policy.attempts - 1
  | .finished _ => 3 * policy.attempts

theorem Tracks.movesTo_move {r r' : Race ω σ P} {m : Move} (h : Tracks F policy resource w r)
    (hm : m.byOpener = true) (hmove : r.move? F policy resource m = some r') :
    movesTo policy r.opener < movesTo policy r'.opener := by
  cases m with
  | call =>
    cases h with
    | before =>
      cases hmove
      exact Nat.lt_succ_self _
    | _ => cases hmove
  | answer =>
    cases h with
    | calling _ _ hlt =>
      cases hmove
      rcases opener_hear hlt _ with ⟨d, hopener⟩ | ⟨handover, hopener⟩ | hopener
      all_goals
        rw [hopener]
        simp only [movesTo]
        omega
    | _ => cases hmove
  | elapse =>
    cases h with
    | waiting =>
      simp only [move?] at hmove
      split at hmove
      · cases hmove
      · cases hmove
        simp only [movesTo, advance]
        omega
    | _ => cases hmove
  | cancel =>
    cases h with
    | waiting _ _ hlt =>
      simp only [move?] at hmove
      split at hmove
      · cases hmove
        simp only [movesTo, advance]
        omega
      · cases hmove
    | _ => cases hmove
  | seed =>
    cases h with
    | holding _ _ hlt =>
      cases hmove
      simp only [movesTo, advance]
      omega
    | _ => cases hmove
  | ask | receive | drop => cases hm

theorem movesTo_run {ms : List Move} {r : Race ω σ P}
    (h : (start w).run? F policy resource ms = some r) :
    ms.countP Move.byOpener ≤ movesTo policy r.opener := by
  induction ms using List.reverseRecOn generalizing r with
  | nil => exact Nat.zero_le _
  | append_singleton ms m ih =>
    obtain ⟨r₁, hrun, hmove⟩ := run?_concat h
    have hle := ih hrun
    rw [List.countP_append, List.countP_singleton]
    cases hm : m.byOpener with
    | true =>
      have hlt := (tracks_run hrun).movesTo_move hm hmove
      rw [if_pos rfl]
      omega
    | false =>
      rw [opener_of_not_byOpener hm hmove, if_neg nofun]
      exact hle

theorem Tracks.movesTo_le {r : Race ω σ P} (h : Tracks F policy resource w r) :
    movesTo policy r.opener ≤ 3 * policy.attempts := by
  cases h with
  | before _ _ hlt | calling _ _ hlt | waiting _ _ hlt =>
    simp only [movesTo]
    omega
  | holding | finished | cancelled => simp only [movesTo]; omega

/-- As long as the opener has not finished, it can move. -/
theorem Tracks.progress {r : Race ω σ P} (h : Tracks F policy resource w r) :
    (∃ handover, r.opener = .finished handover) ∨
      ∃ m, m.byOpener = true ∧ (r.move? F policy resource m).isSome = true := by
  cases h with
  | before => exact .inr ⟨.call, rfl, rfl⟩
  | calling => exact .inr ⟨.answer, rfl, rfl⟩
  | waiting reader =>
    cases reader with
    | dropped => exact .inr ⟨.cancel, rfl, rfl⟩
    | _ => exact .inr ⟨.elapse, rfl, rfl⟩
  | holding => exact .inr ⟨.seed, rfl, rfl⟩
  | finished => exact .inl ⟨_, rfl⟩
  | cancelled => exact .inl ⟨_, rfl⟩

/-- A race that has come to its end has done what the opener does in a run in which the reader is
gone from some wait on, or never. -/
theorem Tracks.executed {r : Race ω σ P} {handover : Handover σ P}
    (h : Tracks F policy resource w r) (hfinished : r.opener = .finished handover) :
    ∃ gone : Nat → Bool, (∀ i, gone i = true → r.reader = .dropped) ∧
      (Opener.run F policy resource gone w).value.1 = handover ∧
      (Opener.run F policy resource gone w).events = r.events := by
  cases h with
  | finished =>
    cases hfinished
    exact ⟨fun _ => false, nofun, rfl, rfl⟩
  | @cancelled errors e hfails hlt =>
    cases hfinished
    obtain ⟨hevents, hvalue⟩ := Opener.run_of_cancelled resource
      (fun i => decide (errors.length < i)) hfails hlt
      (fun i hi => decide_eq_false (by omega)) (decide_eq_true (Nat.lt_succ_self _))
    exact ⟨fun i => decide (errors.length < i), fun _ _ => rfl, hvalue, hevents⟩
  | _ => cases hfinished

end Race
end RoutingDump
