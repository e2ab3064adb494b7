import Mathlib.Data.List.Induction
import Mathlib.Logic.Function.Iterate
import RoutingDump.Opening.Opener

/-!
# Failed attempts

The calls of a factory are numbered from zero, and attempt number `i + 1` is call `i`. An opener
that nobody disturbs works through the failures in front: each is reported, and waited for unless
it was the last one. Then it gives up, or goes on with the first call that does not fail.
-/

namespace RoutingDump

variable {ω σ P : Type}

namespace RetryPolicy

theorem backoff_eq_none_iff {p : RetryPolicy} {attempt : Nat} :
    p.backoff attempt = none ↔ p.maxAttempts.toNat ≤ attempt := by
  unfold backoff
  by_cases h : attempt ≥ p.maxAttempts.toNat
  · rw [if_pos h]
    exact iff_of_true rfl h
  · rw [if_neg h]
    exact iff_of_false nofun h

/-- The number of attempts and the last wait agree: every attempt but the last one is followed by
a wait, also where the policy asks for no attempt at all. -/
theorem backoff_eq_none_iff_last {p : RetryPolicy} {k : Nat} (h : k < p.attempts) :
    p.backoff (k + 1) = none ↔ k + 1 = p.attempts := by
  rw [backoff_eq_none_iff]
  unfold attempts at h ⊢
  omega

theorem exists_backoff {p : RetryPolicy} {k : Nat} (h : k + 1 < p.attempts) :
    ∃ d, p.backoff (k + 1) = some d := by
  refine Option.ne_none_iff_exists'.mp fun hnone => ?_
  have hlast := (backoff_eq_none_iff_last (Nat.lt_of_succ_lt h)).mp hnone
  omega

end RetryPolicy

namespace Format

/-- The surroundings after `i` calls in a row. -/
def afterCalls (F : Format ω σ P) (w : ω) (i : Nat) : ω :=
  (fun w => (F.attempt w).surroundings)^[i] w

/-- Call number `i`. -/
def response (F : Format ω σ P) (w : ω) (i : Nat) : Called ω σ := F.attempt (F.afterCalls w i)

theorem afterCalls_succ (F : Format ω σ P) (w : ω) (i : Nat) :
    F.afterCalls w (i + 1) = (F.response w i).surroundings :=
  Function.iterate_succ_apply' _ _ _

/-- The first calls fail with the given errors. -/
def FailsWith (F : Format ω σ P) (w : ω) (errors : List DecoderError) : Prop :=
  ∀ i e, errors[i]? = some e → (F.response w i).attempt = .failed e

variable {F : Format ω σ P} {w : ω} {errors : List DecoderError}

theorem failsWith_nil : F.FailsWith w [] := nofun

theorem failsWith_concat {e : DecoderError} (h : F.FailsWith w errors)
    (he : (F.response w errors.length).attempt = .failed e) : F.FailsWith w (errors ++ [e]) := by
  intro i e' hi
  rcases Nat.lt_trichotomy i errors.length with hlt | rfl | hgt
  · rw [List.getElem?_append_left hlt] at hi
    exact h i e' hi
  · rw [List.getElem?_concat_length] at hi
    cases hi
    exact he
  · rw [List.getElem?_eq_none (by rw [List.length_append]; exact hgt)] at hi
    cases hi

theorem failsWith_of_concat {e : DecoderError} (h : F.FailsWith w (errors ++ [e])) :
    F.FailsWith w errors ∧ (F.response w errors.length).attempt = .failed e := by
  refine ⟨fun i e' hi => h i e' ?_, h _ e List.getElem?_concat_length⟩
  rw [List.getElem?_append_left (List.getElem?_eq_some_iff.mp hi).1]
  exact hi

theorem FailsWith.exists_error (h : F.FailsWith w errors) {i : Nat} (hi : i < errors.length) :
    ∃ e, (F.response w i).attempt = .failed e :=
  ⟨errors[i], h i _ (List.getElem?_eq_getElem hi)⟩

/-- Among `n` calls, `errors` are the failures in front of the first one that does not fail. -/
structure Settles (F : Format ω σ P) (w : ω) (n : Nat) (errors : List DecoderError) : Prop where
  fails : F.FailsWith w errors
  length_le : errors.length ≤ n
  unfailing : errors.length < n → ∀ e, (F.response w errors.length).attempt ≠ .failed e

theorem exists_settles (F : Format ω σ P) (w : ω) (n : Nat) : ∃ errors, F.Settles w n errors := by
  induction n with
  | zero => exact ⟨[], failsWith_nil, Nat.le_refl 0, fun h => absurd h (Nat.lt_irrefl 0)⟩
  | succ n ih =>
    obtain ⟨errors, h⟩ := ih
    by_cases hstop : ∀ e, (F.response w errors.length).attempt ≠ .failed e
    · exact ⟨errors, h.fails, Nat.le_succ_of_le h.length_le, fun _ => hstop⟩
    -- All of the first `n` calls fail, and so does the next one.
    · have hle := h.length_le
      have hlength : errors.length = n := by
        by_contra hne
        exact hstop (h.unfailing (by omega))
      push Not at hstop
      obtain ⟨e, he⟩ := hstop
      refine ⟨errors ++ [e], failsWith_concat h.fails he, ?_, fun hlt => ?_⟩
      · rw [List.length_append, hlength]
        exact Nat.le_refl _
      · rw [List.length_append, hlength] at hlt
        exact absurd hlt (Nat.lt_irrefl _)

theorem Settles.ends {n : Nat} (h : F.Settles w n errors) :
    errors.length = n ∨ errors.length < n ∧
      ((∃ d, (F.response w errors.length).attempt = .opened d) ∨
        (F.response w errors.length).attempt = .crashed) := by
  rcases Nat.eq_or_lt_of_le h.length_le with hall | hlt
  · exact .inl hall
  · refine .inr ⟨hlt, ?_⟩
    cases hcall : (F.response w errors.length).attempt with
    | opened d => exact .inl ⟨d, rfl⟩
    | crashed => exact .inr rfl
    | failed e => exact absurd hcall (h.unfailing hlt e)

/-- A call behind failures only that does not fail itself is the one behind `errors`. -/
theorem Settles.eq_length {n i : Nat} (h : F.Settles w n errors) (hi : i < n)
    (hbefore : ∀ j < i, ∃ e, (F.response w j).attempt = .failed e)
    (hunfailing : ∀ e, (F.response w i).attempt ≠ .failed e) : i = errors.length := by
  rcases Nat.lt_trichotomy i errors.length with hlt | rfl | hgt
  · obtain ⟨e, he⟩ := h.fails.exists_error hlt
    exact absurd he (hunfailing e)
  · rfl
  · obtain ⟨e, he⟩ := hbefore _ hgt
    exact absurd he (h.unfailing (Nat.lt_trans hgt hi) e)

end Format

namespace Opener

/-- What happens about attempt number `i + 1` if it fails with `e`, the wait after it included. -/
def failure (F : Format ω σ P) (policy : RetryPolicy) (url : String) (w : ω) (i : Nat)
    (e : DecoderError) : List (Event P) :=
  .attempt :: (F.response w i).notices.map .notice ++
    .notice (.attemptFailed url (i + 1) policy.attempts e) ::
      (policy.backoff (i + 1)).toList.map .wait

def failures (F : Format ω σ P) (policy : RetryPolicy) (url : String) (w : ω)
    (errors : List DecoderError) : List (Event P) :=
  (errors.mapIdx (failure F policy url w)).flatten

/-- What happens about attempt number `i + 1` if it succeeds. -/
def success (F : Format ω σ P) (url : String) (w : ω) (i : Nat) : List (Event P) :=
  .attempt :: (F.response w i).notices.map .notice ++ [.notice (.opened url (i + 1))]

variable {F : Format ω σ P} {policy : RetryPolicy} {url : String} {w : ω}
  {errors : List DecoderError}

theorem failures_concat (e : DecoderError) :
    failures F policy url w (errors ++ [e]) =
      failures F policy url w errors ++ failure F policy url w errors.length e := by
  rw [failures, List.mapIdx_concat, List.flatten_append, List.flatten_singleton]
  rfl

theorem retry_of_failed {gone : Nat → Bool} {i left : Nat} {e : DecoderError}
    (h : (F.response w i).attempt = .failed e) (hgone : gone (i + 1) = false) :
    retry F policy url gone (left + 1) (i + 1) (F.afterCalls w i) =
      let later := retry F policy url gone left (i + 1 + 1) (F.afterCalls w (i + 1))
      { events := failure F policy url w i e ++ later.events, value := later.value } := by
  have hcall : F.attempt (F.afterCalls w i) = F.response w i := rfl
  rw [retry, hcall, Format.afterCalls_succ]
  dsimp only
  rw [h, hgone]
  unfold failure
  cases policy.backoff (i + 1) with
  | none => simp
  | some d => simp

/-- The induction is on the failures from behind, so that the attempts go on where they end. -/
theorem retry_failures (policy : RetryPolicy) (url : String) {gone : Nat → Bool}
    (h : F.FailsWith w errors) (hgone : ∀ i ≤ errors.length, gone i = false) (left : Nat) :
    retry F policy url gone (errors.length + left) 1 w =
      let later := retry F policy url gone left (errors.length + 1)
        (F.afterCalls w errors.length)
      { events := failures F policy url w errors ++ later.events, value := later.value } := by
  induction errors using List.reverseRecOn generalizing left with
  | nil =>
    show retry F policy url gone (0 + left) 1 w = _
    rw [Nat.zero_add]
    rfl
  | append_singleton errors e ih =>
    obtain ⟨hfails, he⟩ := Format.failsWith_of_concat h
    have hlength : (errors ++ [e]).length = errors.length + 1 := List.length_append
    rw [hlength] at hgone
    have hbefore : ∀ i ≤ errors.length, gone i = false := fun i hi => hgone i (by omega)
    rw [hlength, Nat.add_assoc, Nat.add_comm 1 left, ih hfails hbefore (left + 1),
      retry_of_failed he (hgone _ (Nat.le_refl _)), failures_concat]
    dsimp only
    rw [List.append_assoc]

/-- The opener comes to the first call behind the failures, if it has an attempt left for it. -/
theorem retry_reaches (url : String) {gone : Nat → Bool} (h : F.FailsWith w errors)
    (hgone : ∀ i ≤ errors.length, gone i = false) (hlt : errors.length < policy.attempts) :
    ∃ left, retry F policy url gone policy.attempts 1 w =
      let later := retry F policy url gone (left + 1) (errors.length + 1)
        (F.afterCalls w errors.length)
      { events := failures F policy url w errors ++ later.events, value := later.value } := by
  refine ⟨policy.attempts - errors.length - 1, ?_⟩
  rw [← retry_failures policy url h hgone,
    show errors.length + (policy.attempts - errors.length - 1 + 1) = policy.attempts by omega]

/-! ### The ends of a run -/

variable (resource : Resource)

theorem run_of_opened (h : F.FailsWith w errors) (hlt : errors.length < policy.attempts) {d : σ}
    (hd : (F.response w errors.length).attempt = .opened d) :
    let t := run F policy resource (fun _ => false) w
    t.events = failures F policy resource.url w errors ++
        (success F resource.url w errors.length ++ (seed F.toDecoder resource d).events) ∧
      t.value.1 = (seed F.toDecoder resource d).value := by
  obtain ⟨left, hretry⟩ := retry_reaches resource.url h (fun _ _ => rfl) hlt
  have hcall : F.attempt (F.afterCalls w errors.length) = F.response w errors.length := rfl
  rw [retry, hcall] at hretry
  dsimp only at hretry ⊢
  rw [hd] at hretry
  rw [run, hretry]
  exact ⟨List.append_assoc _ _ _, rfl⟩

theorem run_of_crashed (h : F.FailsWith w errors) (hlt : errors.length < policy.attempts)
    (hcrash : (F.response w errors.length).attempt = .crashed) :
    let t := run F policy resource (fun _ => false) w
    t.events = failures F policy resource.url w errors ++
        .attempt :: (F.response w errors.length).notices.map .notice ∧
      t.value.1 = .nothing := by
  obtain ⟨left, hretry⟩ := retry_reaches resource.url h (fun _ _ => rfl) hlt
  have hcall : F.attempt (F.afterCalls w errors.length) = F.response w errors.length := rfl
  rw [retry, hcall] at hretry
  dsimp only at hretry ⊢
  rw [hcrash] at hretry
  rw [run, hretry]
  exact ⟨rfl, rfl⟩

theorem run_of_gaveUp (h : F.FailsWith w errors) (hall : errors.length = policy.attempts) :
    let t := run F policy resource (fun _ => false) w
    t.events = failures F policy resource.url w errors ++
        [.notice (.gaveUp resource.url policy.attempts)] ∧
      t.value.1 = .cannotOpen := by
  have hretry := retry_failures policy resource.url h (fun _ _ => rfl) 0
  rw [Nat.add_zero, hall] at hretry
  dsimp only
  rw [run, hretry]
  exact ⟨rfl, rfl⟩

/-- An opener that finds its reader gone for the first time at the wait after the last of some
failures. -/
theorem run_of_cancelled (gone : Nat → Bool) {e : DecoderError}
    (h : F.FailsWith w (errors ++ [e])) (hlt : errors.length + 1 < policy.attempts)
    (hstays : ∀ i ≤ errors.length, gone i = false)
    (hgone : gone (errors.length + 1) = true) :
    let t := run F policy resource gone w
    t.events = failures F policy resource.url w (errors ++ [e]) ++
        [.notice (.openCancelled resource.url)] ∧
      t.value.1 = .cannotOpen := by
  obtain ⟨hfails, he⟩ := Format.failsWith_of_concat h
  obtain ⟨left, hretry⟩ := retry_reaches resource.url hfails hstays (Nat.lt_of_succ_lt hlt)
  have hcall : F.attempt (F.afterCalls w errors.length) = F.response w errors.length := rfl
  obtain ⟨d, hwait⟩ := RetryPolicy.exists_backoff hlt
  rw [retry, hcall] at hretry
  dsimp only at hretry ⊢
  rw [he, hwait, hgone] at hretry
  rw [run, hretry, failures_concat, failure, hwait]
  simp

end Opener
end RoutingDump
