import RoutingDump.Proofs.Stream.Trace

/-!
# The use of the two slots

Pulls exchange the slots, whatever becomes of the stream. A pull decodes into the slot that was
handed out last and hands out the other one, so the decoder never writes where the caller looks.

`decoding` is the list of streams on which pulls call the decoder, each as it is right before the
call. What holds of every call is a statement about its members, and `decodes_pulls_eq_map` says
that the calls of a trace are these and no others. A record handed out is what a single one of them
has left, up to the mark of the end (`body_of_pulled`).
-/

namespace RoutingDump

namespace Side

theorem index_other (side : Side) : side.other.index = 1 - side.index := by cases side <;> rfl

/-- Exchanged again and again, the slots follow the parity of the number. -/
theorem index_iterate_other (n : Nat) : (other^[n] left).index = n % 2 := by
  induction n with
  | zero => rfl
  | succ n ih =>
    rw [Function.iterate_succ_apply', index_other, ih]
    omega

end Side

namespace Stream

variable {σ P : Type}

/-- What a decode into the slot ahead relies on. -/
structure Ready (s : Stream σ P) : Prop where
  active : s.state = .active
  vacant : s.buffer.prefetch.filled = false

/-- The decode call that a prefetch makes: the slot ahead, and its record with a blank body. -/
def decodeCall (s : Stream σ P) : Side × Record P :=
  (s.buffer.ahead, s.buffer.prefetch.record.clear)

theorem decodeCall_eq {s : Stream σ P} (h : s.Stamped) :
    s.decodeCall = (s.buffer.ahead, { origin := s.resource.origin }) := by
  have hrecord : s.buffer.prefetch.record.origin = s.resource.origin := h _
  rw [← hrecord]
  rfl

theorem ready_turn {s : Stream σ P} (hactive : s.state = .active) : s.turn.Ready where
  active := hactive
  vacant := by rw [prefetch_turn]

/-- What is handed out is what the other slot holds. -/
theorem result_eq_ok_iff {s : Stream σ P} {record : Record P} :
    s.result = .ok record ↔ s.buffer.exported = { record := record, filled := true } := by
  unfold result
  obtain ⟨held, filled⟩ := s.buffer.exported
  cases filled
  · dsimp only
    rw [if_neg Bool.false_ne_true]
    constructor
    · intro h
      split at h <;> cases h
    · intro h
      cases h
  · simp

variable {D : Decoder σ P}

/-- A pull that gives a record leaves it in the slot that it does not decode into. -/
theorem exported_of_advance_ok {s : Stream σ P} (h : s.Stamped) {record : Record P}
    (hok : (s.advance D).value.1 = .ok record) :
    (s.advance D).value.2.buffer.slot s.buffer.ahead = { record := record, filled := true } := by
  have hside : s.buffer.ahead = (s.advance D).value.2.buffer.ahead.other := by
    rw [ahead_advance h, Side.other_other]
  rw [hside]
  refine result_eq_ok_iff.mp ?_
  by_cases hactive : s.state = .active
  · rw [value_advance_of_active h hactive] at hok ⊢
    dsimp only at hok ⊢
    split at hok
    · cases hok
    · exact hok
  · rw [value_advance_of_inactive hactive] at hok ⊢
    exact hok

variable (D)

/-- The stream after `n` pulls in a row. -/
def after (s : Stream σ P) (n : Nat) : Stream σ P := (fun s => (s.advance D).value.2)^[n] s

/-- The streams on which `n` pulls in a row call the decoder. -/
def decoding : Nat → Stream σ P → List (Stream σ P)
  | 0, _ => []
  | n + 1, s =>
    let later := decoding n (s.advance D).value.2
    if s.turn.state = .active then s.turn :: later else later

variable {D}

theorem after_succ (s : Stream σ P) (n : Nat) :
    s.after D (n + 1) = ((s.after D n).advance D).value.2 := Function.iterate_succ_apply' _ _ _

theorem after_advance (s : Stream σ P) (n : Nat) :
    (s.advance D).value.2.after D n = s.after D (n + 1) := (Function.iterate_succ_apply _ _ _).symm

theorem stamped_after {s : Stream σ P} (h : s.Stamped) (n : Nat) : (s.after D n).Stamped := by
  induction n with
  | zero => exact h
  | succ n ih =>
    rw [after_succ]
    exact stamped_advance ih

theorem ahead_after {s : Stream σ P} (h : s.Stamped) (n : Nat) :
    (s.after D n).buffer.ahead = Side.other^[n] s.buffer.ahead := by
  induction n with
  | zero => rfl
  | succ n ih =>
    rw [after_succ, ahead_advance (stamped_after h n), ih, Function.iterate_succ_apply']

theorem state_after_of_inactive {s : Stream σ P} (h : s.state ≠ .active) (n : Nat) :
    (s.after D n).state = s.state := by
  induction n with
  | zero => rfl
  | succ n ih =>
    rw [after_succ, value_advance_of_inactive (by rw [ih]; exact h), state_turn, ih]

theorem value_pulls_eq_map (s : Stream σ P) (n : Nat) :
    (s.pulls D n).value = ((List.range n).map fun i => ((s.after D i).advance D).value.1,
      s.after D n) := by
  induction n generalizing s with
  | zero => rfl
  | succ n ih =>
    have hlater := ih (s.advance D).value.2
    simp only [after_advance] at hlater
    rw [List.range_succ_eq_map, List.map_cons, List.map_map]
    show ((s.advance D).value.1 :: ((s.advance D).value.2.pulls D n).value.1,
      ((s.advance D).value.2.pulls D n).value.2) = _
    rw [hlater]
    rfl

/-! ### The decode calls of pulls -/

theorem decoding_of_inactive {s : Stream σ P} (h : s.state ≠ .active) (n : Nat) :
    s.decoding D n = [] := by
  induction n generalizing s with
  | zero => rfl
  | succ n ih =>
    rw [decoding, if_neg (show ¬ s.turn.state = .active from h), value_advance_of_inactive h]
    exact ih h

theorem decoding_add (s : Stream σ P) (m n : Nat) :
    s.decoding D (m + n) = s.decoding D m ++ (s.after D m).decoding D n := by
  induction m generalizing s with
  | zero =>
    rw [Nat.zero_add]
    rfl
  | succ m ih =>
    rw [Nat.succ_add, decoding, decoding, ih, after_advance]
    split <;> rfl

theorem decodes_pulls_eq_map {s : Stream σ P} (h : s.Stamped) (n : Nat) :
    Event.decodes (s.pulls D n).events = (s.decoding D n).map decodeCall := by
  induction n generalizing s with
  | zero => rfl
  | succ n ih =>
    have hcall : s.turn.decodeCall = (s.buffer.ahead.other, { origin := s.resource.origin }) := by
      rw [decodeCall_eq (stamped_turn h), ahead_turn]
      rfl
    rw [events_pulls_succ, Event.decodes_append, decodes_advance h, ih (stamped_advance h),
      decoding, ← hcall]
    by_cases hactive : s.state = .active
    · rw [if_pos hactive, if_pos (show s.turn.state = .active from hactive)]
      rfl
    · rw [if_neg hactive, if_neg (show ¬ s.turn.state = .active from hactive)]
      rfl

theorem ready_of_mem_decoding {s t : Stream σ P} {n : Nat} (h : t ∈ s.decoding D n) :
    t.Ready := by
  induction n generalizing s with
  | zero => cases h
  | succ n ih =>
    unfold decoding at h
    dsimp only at h
    split at h
    · rename_i hactive
      rcases List.mem_cons.mp h with rfl | hlater
      · exact ready_turn hactive
      · exact ih hlater
    · exact ih h

/-- The calls of pulls take the slots in turn. Once a pull makes no call, no later one does, so the
number of a call is that of its pull. -/
theorem ahead_decoding {s t : Stream σ P} (hs : s.Stamped) {n j : Nat}
    (h : (s.decoding D n)[j]? = some t) :
    t.buffer.ahead = Side.other^[j + 1] s.buffer.ahead := by
  induction n generalizing s j with
  | zero => cases h
  | succ n ih =>
    by_cases hactive : s.state = .active
    · rw [decoding, if_pos (show s.turn.state = .active from hactive)] at h
      cases j with
      | zero =>
        cases h
        exact ahead_turn s
      | succ j =>
        rw [ih (stamped_advance hs) h, ahead_advance hs]
        rfl
    · rw [decoding_of_inactive hactive] at h
      cases h

end Stream

/-! ### What is handed out -/

namespace Lookahead

variable {σ P : Type} {D : Decoder σ P} {resource : Resource} {d : σ} {record : Record P}

theorem result_eq_ok {state : Lifecycle} {waiting : Option (Body P)}
    (h : result resource state waiting = .ok record) :
    ∃ body, waiting = some body ∧ record = ⟨resource.origin, body⟩ := by
  cases waiting with
  | none =>
    simp only [result] at h
    split at h <;> cases h
  | some body =>
    cases h
    exact ⟨body, rfl, rfl⟩

/-- A pull hands out what waits, up to the mark of the end. -/
theorem waiting_of_pull {l : Lookahead σ P} (h : (l.pull D resource).1 = .ok record) :
    ∃ body, l.waiting = some body ∧ (record.body = body ∨ record.body = body.asLast) := by
  by_cases hactive : l.state = .active
  · rw [pull_of_active hactive] at h
    dsimp only at h
    split at h
    · cases h
    · obtain ⟨body, hbody, rfl⟩ := result_eq_ok h
      split at hbody
      · obtain ⟨held, hheld, rfl⟩ := Option.map_eq_some_iff.mp hbody
        exact ⟨held, hheld, .inr rfl⟩
      · exact ⟨body, hbody, .inl rfl⟩
  · rw [pull_of_inactive hactive] at h
    obtain ⟨body, hbody, rfl⟩ := result_eq_ok h
    exact ⟨body, hbody, .inl rfl⟩

theorem result_of_record? {state : Lifecycle} {waiting : Option (Body P)}
    (h : (result resource state waiting).record? = some record) :
    result resource state waiting = .ok record := by
  cases waiting with
  | none =>
    simp only [result] at h
    split at h <;> cases h
  | some body =>
    cases h
    rfl

/-- An open stream gives records by `ok` and in no other way. -/
theorem pull_of_record? {l : Lookahead σ P} (h : (l.pull D resource).1.record? = some record) :
    (l.pull D resource).1 = .ok record := by
  by_cases hactive : l.state = .active
  · rw [pull_of_active hactive] at h ⊢
    dsimp only at h ⊢
    split at h
    · cases h
    · rename_i hread
      rw [if_neg hread]
      exact result_of_record? h
  · rw [pull_of_inactive hactive] at h ⊢
    exact result_of_record? h

theorem eq_body_of_offer {a : Decoded σ P} {live : Bool} {body : Body P}
    (h : a.offer live = some body) : body = a.body := by
  unfold Decoded.offer at h
  split at h
  · cases h
    rfl
  · cases h

/-- A record has the body that call number `i` left in it, up to the mark that the next call may
put on it. -/
theorem body_of_pulled {i : Nat} (h : (opened D resource d).pulled D resource i = .ok record) :
    record.origin = resource.origin ∧
      (record.body = (D.answer resource.origin d i).body ∨
        (D.answer resource.origin d (i + 1)).marksEnd resource.isLive = true ∧
          record.body = (D.answer resource.origin d i).body.asLast) := by
  by_cases hrunning : Unstopped D resource d (i + 1)
  · rw [pulled_of_unstopped hrunning] at h
    dsimp only at h
    split at h
    · cases h
    · obtain ⟨body, hbody, rfl⟩ := result_eq_ok h
      refine ⟨rfl, ?_⟩
      split at hbody
      · rename_i hmark
        obtain ⟨offered, hoffer, rfl⟩ := Option.map_eq_some_iff.mp hbody
        exact .inr ⟨hmark, by rw [eq_body_of_offer hoffer]⟩
      · exact .inl (eq_body_of_offer hbody)
  · obtain ⟨k, hstop, hk⟩ : ∃ k, StoppedBy D resource d k ∧ k < i + 1 := by
      by_contra hnone
      refine hrunning (unstopped_of_stoppedBy_le fun k hk => ?_)
      by_contra hle
      exact hnone ⟨k, hk, by omega⟩
    rcases Nat.lt_or_eq_of_le (Nat.le_of_lt_succ hk) with hlt | rfl
    · rw [pulled_after_stop hstop hlt] at h
      cases h
    · rw [pulled_of_stop hstop] at h
      split at h
      · rename_i body hoffer
        cases h
        exact ⟨rfl, .inl (eq_body_of_offer hoffer)⟩
      · cases h

end Lookahead

end RoutingDump
