import RoutingDump.Opening.Obstacle
import RoutingDump.Proofs.Opening.Log
import RoutingDump.Proofs.Opening.Race
import RoutingDump.Script

/-!
# Cancelling an open

A wait is cancelled only if the reader has been dropped, and then no call of the factory follows.
So a reader that stays receives the same whenever it waits, and one that is dropped sees at most
one more call begin.
-/

namespace RoutingDump

variable {ω σ P : Type}

namespace Race

variable {F : Format ω σ P} {policy : RetryPolicy} {resource : Resource} {w : ω}

/-! ### The reader -/

theorem reader_of_byOpener {r r' : Race ω σ P} {m : Move} (hm : m.byOpener = true)
    (hmove : r.move? F policy resource m = some r') : r'.reader = r.reader := by
  cases m with
  | call | answer | seed | elapse | cancel =>
    simp only [move?] at hmove
    repeat' split at hmove
    all_goals cases hmove
    all_goals simp
  | ask | receive | drop => cases hm

theorem dropped_move {r r' : Race ω σ P} {m : Move}
    (hmove : r.move? F policy resource m = some r') :
    r'.reader = .dropped ↔ r.reader = .dropped ∨ m = .drop := by
  cases hm : m.byOpener with
  | true =>
    rw [reader_of_byOpener hm hmove]
    refine (or_iff_left ?_).symm
    rintro rfl
    cases hm
  | false =>
    cases m with
    | ask | receive =>
      simp only [move?] at hmove
      split at hmove <;> cases hmove
      simp_all
    | drop =>
      simp only [move?] at hmove
      split at hmove <;> cases hmove
      all_goals simp
    | _ => cases hm

theorem dropped_run {ms : List Move} {r : Race ω σ P}
    (h : (start w).run? F policy resource ms = some r) : r.reader = .dropped ↔ .drop ∈ ms := by
  induction ms using List.reverseRecOn generalizing r with
  | nil =>
    cases h
    exact iff_of_false nofun nofun
  | append_singleton ms m ih =>
    obtain ⟨r₁, hrun, hmove⟩ := run?_concat h
    rw [dropped_move hmove, ih hrun, List.mem_append, List.mem_singleton, eq_comm (a := m)]

/-- Only a reader that waits receives anything, and such a reader has not been dropped. -/
theorem served_move {r r' : Race ω σ P} {m : Move} (h : Tracks F policy resource w r)
    (hserved : ∀ handover, r.reader = .served handover →
      handover = (Opener.run F policy resource (fun _ => false) w).value.1)
    (hmove : r.move? F policy resource m = some r') (handover : Handover σ P)
    (hreader : r'.reader = .served handover) :
    handover = (Opener.run F policy resource (fun _ => false) w).value.1 := by
  cases hm : m.byOpener with
  | true =>
    rw [reader_of_byOpener hm hmove] at hreader
    exact hserved handover hreader
  | false =>
    cases m with
    | ask | drop =>
      simp only [move?] at hmove
      split at hmove <;> cases hmove
      all_goals cases hreader
    | receive =>
      simp only [move?] at hmove
      split at hmove
      · rename_i received hasks hfinished
        cases hmove
        cases hreader
        cases h with
        | finished => exact (Station.finished.inj hfinished).symm
        | cancelled => cases hasks
        | _ => cases hfinished
      · cases hmove
    | _ => cases hm

theorem served_run {ms : List Move} {r : Race ω σ P}
    (h : (start w).run? F policy resource ms = some r) :
    ∀ handover, r.reader = .served handover →
      handover = (Opener.run F policy resource (fun _ => false) w).value.1 := by
  induction ms using List.reverseRecOn generalizing r with
  | nil =>
    cases h
    intro handover hserved
    cases hserved
  | append_singleton ms m ih =>
    obtain ⟨r₁, hrun, hmove⟩ := run?_concat h
    exact served_move (tracks_run hrun) (ih hrun) hmove

/-! ### Calls after the drop -/

/-- The opener comes to stand in front of a call by a wait that has run out. -/
theorem Tracks.elapse_of_before {r r' : Race ω σ P} {m : Move} {attempt : Nat}
    (h : Tracks F policy resource w r) (hmove : r.move? F policy resource m = some r')
    (hm : m.byOpener = true) (hbefore : r'.opener = .before attempt) : m = .elapse := by
  cases m with
  | call =>
    cases h with
    | before =>
      cases hmove
      cases hbefore
    | _ => cases hmove
  | answer =>
    cases h with
    | calling _ _ hlt =>
      cases hmove
      rcases opener_hear hlt _ with ⟨d, hopener⟩ | ⟨handover, hopener⟩ | hopener
      all_goals cases hopener.symm.trans hbefore
    | _ => cases hmove
  | elapse => rfl
  | cancel =>
    simp only [move?] at hmove
    repeat' split at hmove
    all_goals cases hmove
    cases hbefore
  | seed =>
    cases h with
    | holding =>
      cases hmove
      cases hbefore
    | _ => cases hmove
  | ask | receive | drop => cases hm

/-- How many calls an opener can still begin if none of its waits runs out. -/
def callsLeft : Station σ P → Nat
  | .before _ => 1
  | .calling _ | .waiting _ | .holding _ | .finished _ => 0

theorem callsLeft_eq_zero {station : Station σ P} (h : ∀ attempt, station ≠ .before attempt) :
    callsLeft station = 0 := by
  cases station with
  | before attempt => exact absurd rfl (h attempt)
  | _ => rfl

theorem Tracks.callsLeft_move {r r' : Race ω σ P} {m : Move} (h : Tracks F policy resource w r)
    (hdropped : r.reader = .dropped) (hmove : r.move? F policy resource m = some r') :
    m ≠ .elapse ∧ (if m = .call then 1 else 0) + callsLeft r'.opener ≤ callsLeft r.opener := by
  have helapse : m ≠ .elapse := by
    rintro rfl
    simp only [move?] at hmove
    split at hmove
    · rw [if_pos (isDropped_iff.mpr hdropped)] at hmove
      cases hmove
    · cases hmove
  refine ⟨helapse, ?_⟩
  by_cases hcall : m = .call
  · subst hcall
    cases h with
    | before =>
      cases hmove
      exact Nat.le_refl 1
    | _ => cases hmove
  · rw [if_neg hcall, Nat.zero_add]
    cases hm : m.byOpener with
    | false => exact Nat.le_of_eq (congrArg _ (opener_of_not_byOpener hm hmove))
    | true =>
      have hzero : callsLeft r'.opener = 0 := callsLeft_eq_zero fun attempt hbefore =>
        helapse (h.elapse_of_before hmove hm hbefore)
      rw [hzero]
      exact Nat.zero_le _

theorem Tracks.callsLeft_run {ms : List Move} {r r' : Race ω σ P}
    (h : Tracks F policy resource w r) (hdropped : r.reader = .dropped)
    (hrun : r.run? F policy resource ms = some r') :
    .elapse ∉ ms ∧ ms.count .call ≤ callsLeft r.opener := by
  induction ms generalizing r with
  | nil => exact ⟨List.not_mem_nil, Nat.zero_le _⟩
  | cons m ms ih =>
    obtain ⟨r₁, hmove, hlater⟩ := run?_cons hrun
    obtain ⟨helapse, hle⟩ := h.callsLeft_move hdropped hmove
    obtain ⟨hnever, hcount⟩ := ih (h.move hmove) ((dropped_move hmove).mpr (.inl hdropped)) hlater
    refine ⟨fun hmem => ?_, ?_⟩
    · rcases List.mem_cons.mp hmem with rfl | hmem
      · exact helapse rfl
      · exact hnever hmem
    · rw [List.count_cons]
      simp only [beq_iff_eq]
      omega

theorem last_of_before {ms : List Move} {r : Race ω σ P} {attempt : Nat}
    (h : (start w).run? F policy resource ms = some r) (hbefore : r.opener = .before attempt) :
    ms.filter Move.byOpener = [] ∨ (ms.filter Move.byOpener).getLast? = some .elapse := by
  induction ms using List.reverseRecOn generalizing r with
  | nil => exact .inl rfl
  | append_singleton ms m ih =>
    obtain ⟨r₁, hrun, hmove⟩ := run?_concat h
    rw [List.filter_append]
    cases hm : m.byOpener with
    | true =>
      obtain rfl := (tracks_run hrun).elapse_of_before hmove hm hbefore
      exact .inr List.getLast?_concat
    | false =>
      rw [opener_of_not_byOpener hm hmove] at hbefore
      rw [List.filter_cons_of_neg (by rw [hm]; nofun), List.filter_nil, List.append_nil]
      exact ih hrun hbefore

/-! ### Cancelled races -/

/-- What a race has come to once its opener was cancelled. -/
structure Cancelled (F : Format ω σ P) (policy : RetryPolicy) (resource : Resource) (w : ω)
    (r : Race ω σ P) : Prop where
  reader_eq : r.reader = .dropped
  opener_eq : r.opener = .finished .cannotOpen
  events_eq : ∃ errors, F.FailsWith w errors ∧ 0 < errors.length ∧
    errors.length < policy.attempts ∧
      r.events = Opener.failures F policy resource.url w errors ++
        [.notice (.openCancelled resource.url)]

theorem Tracks.cancel {r r' : Race ω σ P} (h : Tracks F policy resource w r)
    (hmove : r.move? F policy resource .cancel = some r') :
    r.reader = .dropped ∧ Cancelled F policy resource w r' := by
  cases h with
  | @waiting errors e reader hfails hlt =>
    simp only [move?] at hmove
    split at hmove
    · rename_i hdropped
      cases hmove
      have hreader : reader = .dropped := isDropped_iff.mp hdropped
      refine ⟨hreader, hreader, rfl, ⟨errors ++ [e], hfails, ?_, ?_, rfl⟩⟩
      · rw [List.length_append]
        exact Nat.succ_pos _
      · rw [List.length_append]
        exact hlt
    · cases hmove
  | _ => cases hmove

/-- Nobody moves any more when the opener has finished and the reader is gone. -/
theorem move?_of_over {r : Race ω σ P} {handover : Handover σ P} (hreader : r.reader = .dropped)
    (hopener : r.opener = .finished handover) (m : Move) :
    r.move? F policy resource m = none := by
  cases m <;> simp only [move?, hreader, hopener]

theorem cancel_run {front back : List Move} {r : Race ω σ P}
    (h : (start w).run? F policy resource (front ++ .cancel :: back) = some r) :
    .drop ∈ front ∧ back = [] ∧ Cancelled F policy resource w r := by
  obtain ⟨r₁, r₂, hfront, hmove, hback⟩ := run?_append_cons h
  obtain ⟨hdropped, hcancelled⟩ := (tracks_run hfront).cancel hmove
  refine ⟨(dropped_run hfront).mp hdropped, ?_⟩
  cases back with
  | nil =>
    cases hback
    exact ⟨rfl, hcancelled⟩
  | cons m ms =>
    obtain ⟨r₃, hmove', -⟩ := run?_cons hback
    rw [move?_of_over hcancelled.reader_eq hcancelled.opener_eq] at hmove'
    cases hmove'

/-! ### The protocol -/

/-- What holds of a race `r` that the moves `ms` have led to. -/
structure Protocol (F : Format ω σ P) (policy : RetryPolicy) (resource : Resource) (w : ω)
    (ms : List Move) (r : Race ω σ P) : Prop where
  cancel_after_drop : ∀ front back, ms = front ++ .cancel :: back → .drop ∈ front
  received : ∀ handover, r.reader = .served handover →
    handover = (Opener.run F policy resource (fun _ => false) w).value.1
  undisturbed : .drop ∉ ms → ∀ handover, r.opener = .finished handover →
    handover = (Opener.run F policy resource (fun _ => false) w).value.1 ∧
      r.events = (Opener.run F policy resource (fun _ => false) w).events
  /-- No wait runs out any more, and the opener begins at most the call that it stood in front
  of. -/
  after_drop : ∀ front back, ms = front ++ .drop :: back →
    .elapse ∉ back ∧ back.count .call ≤ 1 ∧
      (.call ∈ back → front.filter Move.byOpener = [] ∨
        (front.filter Move.byOpener).getLast? = some .elapse)
  wait_before_drop : .drop ∉ ms → ∀ attempt, r.opener = .waiting attempt →
    ∀ m, m.byOpener = true → ((r.move? F policy resource m).isSome = true ↔ m = .elapse)
  wait_after_drop : .drop ∈ ms → ∀ attempt, r.opener = .waiting attempt →
    ∀ m, (r.move? F policy resource m).isSome = true ↔ m = .cancel
  after_cancel : ∀ front back, ms = front ++ .cancel :: back → back = []
  cancelled : .cancel ∈ ms → Cancelled F policy resource w r
  never_gaveUp : (∀ w n, .gaveUp resource.url n ∉ (F.attempt w).notices) → .cancel ∈ ms →
    ∀ n, .gaveUp resource.url n ∉ Event.notices r.events
  /-- The opener goes on until it has finished, which takes it no more than so many moves. -/
  progress : ms.countP Move.byOpener ≤ 3 * policy.attempts ∧
    ((∃ handover, r.opener = .finished handover) ∨
      ∃ m, m.byOpener = true ∧ (r.move? F policy resource m).isSome = true)
  executed : ∀ handover, r.opener = .finished handover →
    ∃ gone : Nat → Bool, (∀ i, gone i = true → .drop ∈ ms) ∧
      (Opener.run F policy resource gone w).value.1 = handover ∧
      (Opener.run F policy resource gone w).events = r.events

theorem after_drop_run {front back : List Move} {r : Race ω σ P}
    (h : (start w).run? F policy resource (front ++ .drop :: back) = some r) :
    .elapse ∉ back ∧ back.count .call ≤ 1 ∧
      (.call ∈ back → front.filter Move.byOpener = [] ∨
        (front.filter Move.byOpener).getLast? = some .elapse) := by
  obtain ⟨r₁, r₂, hfront, hmove, hback⟩ := run?_append_cons h
  have htracks := (tracks_run hfront).move hmove
  obtain ⟨helapse, hcount⟩ := htracks.callsLeft_run ((dropped_move hmove).mpr (.inr rfl)) hback
  rw [opener_of_not_byOpener rfl hmove] at hcount
  cases hopener : r₁.opener with
  | before attempt =>
    rw [hopener] at hcount
    exact ⟨helapse, hcount, fun _ => last_of_before hfront hopener⟩
  | _ =>
    rw [hopener] at hcount
    have hnone : back.count .call = 0 := Nat.le_zero.mp hcount
    refine ⟨helapse, by omega, fun hcall => ?_⟩
    exact absurd hcall (List.count_eq_zero.mp hnone)

theorem cancellation_protocol {ms : List Move} {r : Race ω σ P}
    (h : (start w).run? F policy resource ms = some r) : Protocol F policy resource w ms r := by
  have htracks := tracks_run h
  have hcancel : .cancel ∈ ms → Cancelled F policy resource w r := by
    intro hmem
    obtain ⟨front, back, rfl⟩ := List.append_of_mem hmem
    exact (cancel_run h).2.2
  constructor
  case cancel_after_drop =>
    rintro front back rfl
    exact (cancel_run h).1
  case received => exact served_run h
  case undisturbed =>
    intro hstays handover hfinished
    cases htracks with
    | finished =>
      cases hfinished
      exact ⟨rfl, rfl⟩
    | cancelled => exact absurd ((dropped_run h).mp rfl) hstays
    | _ => cases hfinished
  case after_drop =>
    rintro front back rfl
    exact after_drop_run h
  case wait_before_drop =>
    intro hstays attempt hwaiting m hm
    have hdropped : r.isDropped = false :=
      Bool.eq_false_iff.mpr fun hdrop => hstays ((dropped_run h).mp (isDropped_iff.mp hdrop))
    cases m with
    | ask | receive | drop => cases hm
    | _ => simp [move?, hwaiting, hdropped]
  case wait_after_drop =>
    intro hdrop attempt hwaiting m
    have hreader : r.reader = .dropped := (dropped_run h).mpr hdrop
    have hdropped : r.isDropped = true := isDropped_iff.mpr hreader
    cases m <;> simp [move?, hwaiting, hreader, hdropped]
  case after_cancel =>
    rintro front back rfl
    exact (cancel_run h).2.1
  case cancelled => exact hcancel
  case never_gaveUp =>
    intro hquiet hmem n hn
    obtain ⟨errors, -, -, -, hevents⟩ := (hcancel hmem).events_eq
    rw [hevents, Event.notices_append, Opener.notices_failures, List.mem_append] at hn
    rcases hn with hn | hn
    · exact Opener.gaveUp_not_mem_complaints (fun w => hquiet w n) hn
    · cases List.mem_singleton.mp hn
  case progress => exact ⟨Nat.le_trans (movesTo_run h) htracks.movesTo_le, htracks.progress⟩
  case executed =>
    intro handover hfinished
    obtain ⟨gone, hgone, hrun⟩ := htracks.executed hfinished
    exact ⟨gone, fun i hi => (dropped_run h).mp (hgone i hi), hrun⟩

/-- The reader is dropped between the first wait and the second call. -/
theorem cancellation_protocol_second_wait :
    let resource : Resource :=
      { url := "feed", project := "p", collector := "c", recordType := .updates, initialTime := 0 }
    let down : Option Obstacle := some (.error (.other "down"))
    let w : List (Option Obstacle) × Script UInt32 :=
      ([down, down, down], .start [] false .atEnd [])
    let ms : List Move := [.call, .answer, .elapse, .drop, .call, .answer, .cancel]
    ∃ r, (start w).run? Script.format.obstructed {} resource ms = some r ∧
      Protocol Script.format.obstructed {} resource w ms r :=
  ⟨_, rfl, cancellation_protocol rfl⟩

end Race
end RoutingDump
