import RoutingDump.Proofs.Opening.Attempts

/-!
# What failed attempts leave in a log

The calls of the factory and the waits between them are the pace of an open. Beside them stand the
notices: what the factory says of itself, and one warning about each failed attempt.
-/

namespace RoutingDump

variable {ω σ P : Type}

namespace Event

def isPace : Event P → Bool
  | .attempt | .wait _ => true
  | .notice _ | .decode _ _ => false

/-- The factory calls of a trace and the waits between them. -/
def pace (es : List (Event P)) : List (Event P) := es.filter isPace

theorem pace_append (es fs : List (Event P)) : pace (es ++ fs) = pace es ++ pace fs :=
  List.filter_append _ _

theorem pace_notices (ns : List Notice) : pace (ns.map (notice (P := P))) = [] := by
  rw [pace, List.filter_map, List.map_eq_nil_iff]
  exact List.filter_eq_nil_iff.mpr nofun

theorem notices_append (es fs : List (Event P)) : notices (es ++ fs) = notices es ++ notices fs :=
  List.filterMap_append

theorem notices_notices (ns : List Notice) : notices (ns.map (notice (P := P))) = ns := by
  rw [notices, List.filterMap_map]
  exact List.filterMap_some

theorem attempts_eq_countP_pace (es : List (Event P)) :
    attempts es = (pace es).countP isAttempt := by
  rw [attempts, pace, List.countP_filter]
  refine List.countP_congr fun e _ => ?_
  cases e <;> simp [isAttempt, isPace]

end Event

/-- Neither the factory nor the decoder reports in the name of the opener. -/
structure Format.Discreet (F : Format ω σ P) : Prop where
  attempt : ∀ w, ∀ n ∈ (F.attempt w).notices, n.reporter ≠ .opener
  decode : ∀ d record, ∀ n ∈ (F.decode d record).notices, n.reporter ≠ .opener

namespace Opener

variable {F : Format ω σ P} {policy : RetryPolicy} {url : String} {w : ω}
  {errors : List DecoderError}

/-- What is said about failures, by the factory and about each of them. -/
def complaints (F : Format ω σ P) (policy : RetryPolicy) (url : String) (w : ω)
    (errors : List DecoderError) : List Notice :=
  (errors.mapIdx fun i e =>
    (F.response w i).notices ++ [.attemptFailed url (i + 1) policy.attempts e]).flatten

theorem complaints_concat (e : DecoderError) :
    complaints F policy url w (errors ++ [e]) =
      complaints F policy url w errors ++ ((F.response w errors.length).notices ++
        [.attemptFailed url (errors.length + 1) policy.attempts e]) := by
  rw [complaints, List.mapIdx_concat, List.flatten_append, List.flatten_singleton]
  rfl

theorem notices_called (ns : List Notice) :
    Event.notices (.attempt :: ns.map (Event.notice (P := P))) = ns := Event.notices_notices ns

theorem pace_called (ns : List Notice) :
    Event.pace (.attempt :: ns.map (Event.notice (P := P))) = [.attempt] :=
  congrArg (Event.attempt :: ·) (Event.pace_notices ns)

theorem notices_failures :
    Event.notices (failures F policy url w errors) = complaints F policy url w errors := by
  induction errors using List.reverseRecOn with
  | nil => rfl
  | append_singleton errors e ih =>
    rw [failures_concat, complaints_concat, Event.notices_append, ih, failure, Event.notices_append,
      notices_called]
    cases policy.backoff (errors.length + 1) <;> rfl

/-- Failed attempts and the waits after them. -/
def tries (policy : RetryPolicy) (n : Nat) : List (Event P) :=
  (List.range n).flatMap fun i => .attempt :: (policy.backoff (i + 1)).toList.map .wait

theorem tries_succ (n : Nat) :
    tries (P := P) policy (n + 1) =
      tries policy n ++ .attempt :: (policy.backoff (n + 1)).toList.map .wait := by
  rw [tries, List.range_succ, List.flatMap_append, List.flatMap_singleton]
  rfl

theorem pace_failures :
    Event.pace (failures F policy url w errors) = tries policy errors.length := by
  induction errors using List.reverseRecOn with
  | nil => rfl
  | append_singleton errors e ih =>
    rw [failures_concat, Event.pace_append, ih, failure, Event.pace_append, pace_called,
      List.length_append, List.length_singleton, tries_succ]
    cases policy.backoff (errors.length + 1) <;> rfl

theorem countP_tries (n : Nat) : (tries (P := P) policy n).countP Event.isAttempt = n := by
  induction n with
  | zero => rfl
  | succ n ih =>
    rw [tries_succ, List.countP_append, ih]
    cases policy.backoff (n + 1) <;> rfl

/-- The waits stand between the attempts only: the last attempt is followed by none. -/
theorem tries_attempts :
    tries (P := P) policy policy.attempts = tries policy (policy.attempts - 1) ++ [.attempt] := by
  have hpos : 1 ≤ policy.attempts := Nat.le_max_left _ _
  obtain ⟨n, hn⟩ : ∃ n, policy.attempts = n + 1 := ⟨policy.attempts - 1, by omega⟩
  have hlast : policy.backoff (n + 1) = none :=
    (RetryPolicy.backoff_eq_none_iff_last (by omega)).mpr hn.symm
  rw [hn, tries_succ, hlast]
  rfl

/-- The warnings of the opener. -/
def isWarning (n : Notice) : Bool := n.reporter == .opener && n.level == .warn

theorem not_isWarning {n : Notice} (h : n.reporter ≠ .opener) : isWarning n = false := by
  rw [isWarning, beq_eq_false_iff_ne.mpr h]
  rfl

theorem warnings_complaints (h : F.Discreet) :
    (complaints F policy url w errors).filter isWarning =
      errors.mapIdx fun i e => .attemptFailed url (i + 1) policy.attempts e := by
  induction errors using List.reverseRecOn with
  | nil => rfl
  | append_singleton errors e ih =>
    have hcall : ((F.response w errors.length).notices).filter isWarning = [] :=
      List.filter_eq_nil_iff.mpr fun n hn => by simp [not_isWarning (h.attempt _ n hn)]
    rw [complaints_concat, List.filter_append, List.filter_append, ih, hcall, List.mapIdx_concat]
    rfl

theorem gaveUp_not_mem_complaints {n : Nat} (h : ∀ w, .gaveUp url n ∉ (F.attempt w).notices) :
    .gaveUp url n ∉ complaints F policy url w errors := by
  induction errors using List.reverseRecOn with
  | nil => nofun
  | append_singleton errors e ih =>
    rw [complaints_concat, List.mem_append, List.mem_append, List.mem_singleton]
    rintro (hn | hn | hn)
    · exact ih hn
    · exact h _ hn
    · cases hn

end Opener
end RoutingDump
