import Mathlib.Logic.Function.Iterate
import Mathlib.Order.Bounds.Defs
import RoutingDump.Proofs.Stream.Lookahead

/-!
# Traces of pulls

The calls of a decoder are numbered from zero, and so are the pulls of a stream. Pull number `i`
comes after the answers `0` to `i` and takes in answer `i + 1`, unless one of those before has
stopped the stream. What it gives depends on these answers alone.
-/

namespace RoutingDump

variable {σ P : Type}

namespace Decoder

/-- The decoder after `n` calls in a row, each with a blank record of the given origin. -/
def after (D : Decoder σ P) (origin : Origin) (d : σ) (n : Nat) : σ :=
  (fun d => (D.decode d { origin := origin }).state)^[n] d

/-- The answer to call number `i` in a row. -/
def answer (D : Decoder σ P) (origin : Origin) (d : σ) (i : Nat) : Decoded σ P :=
  D.decode (D.after origin d i) { origin := origin }

theorem after_succ (D : Decoder σ P) (origin : Origin) (d : σ) (n : Nat) :
    D.after origin d (n + 1) = (D.answer origin d n).state :=
  Function.iterate_succ_apply' _ _ _

end Decoder

theorem Outcome.lifecycle_eq_active_iff {live : Bool} {o : Outcome} :
    o.lifecycle live .active = .active ↔ o.stops live = false := by
  cases o <;> cases live <;> decide

namespace Lookahead

/-- The stream has taken in the answer `a`, and no answer before has stopped it. -/
structure Holds (live : Bool) (l : Lookahead σ P) (a : Decoded σ P) : Prop where
  decoder : l.decoder = a.state
  state : l.state = a.outcome.lifecycle live .active
  waiting : l.waiting = a.offer live

theorem holds_absorb {live : Bool} {l : Lookahead σ P} (hactive : l.state = .active)
    (a : Decoded σ P) : (l.absorb live a).Holds live a :=
  ⟨rfl, by rw [← hactive]; rfl, rfl⟩

def opened (D : Decoder σ P) (resource : Resource) (d : σ) : Lookahead σ P :=
  absorb resource.isLive { decoder := d } (D.answer resource.origin d 0)

/-- The stream before pull number `i`. -/
def after (D : Decoder σ P) (resource : Resource) (l : Lookahead σ P) (i : Nat) : Lookahead σ P :=
  (fun l => (l.pull D resource).2)^[i] l

/-- What pull number `i` gives. -/
def pulled (D : Decoder σ P) (resource : Resource) (l : Lookahead σ P) (i : Nat) : Pull P :=
  ((l.after D resource i).pull D resource).1

variable {D : Decoder σ P} {resource : Resource}

theorem after_succ (l : Lookahead σ P) (i : Nat) :
    l.after D resource (i + 1) = ((l.after D resource i).pull D resource).2 :=
  Function.iterate_succ_apply' _ _ _

theorem after_pull (l : Lookahead σ P) (i : Nat) :
    (l.pull D resource).2.after D resource i = l.after D resource (i + 1) :=
  (Function.iterate_succ_apply _ _ _).symm

theorem pull_of_active {l : Lookahead σ P} (hactive : l.state = .active) :
    l.pull D resource =
      let a := l.answer D resource
      let next := l.absorb resource.isLive a
      (if a.outcome = .readError then .error (.readFailed resource.url)
        else result resource next.state
          (if a.marksEnd resource.isLive then l.waiting.map Body.asLast else l.waiting), next) := by
  unfold pull
  rw [if_pos hactive]
  dsimp only
  split <;> rfl

theorem pull_of_inactive {l : Lookahead σ P} (hinactive : l.state ≠ .active) :
    l.pull D resource = (result resource l.state l.waiting, { l with waiting := none }) := by
  unfold pull
  rw [if_neg hinactive]

theorem result_of_inactive {state : Lifecycle} (hinactive : state ≠ .active) :
    result (P := P) resource state none = .endOfStream none := by
  simp [result, hinactive]

section Numbered

variable {d : σ}

/-- None of the first `n` answers stops the stream. -/
def Unstopped (D : Decoder σ P) (resource : Resource) (d : σ) (n : Nat) : Prop :=
  ∀ j < n, (D.answer resource.origin d j).outcome.stops resource.isLive = false

/-- Answer `k` is the first that stops the stream. -/
structure StoppedBy (D : Decoder σ P) (resource : Resource) (d : σ) (k : Nat) : Prop where
  before : Unstopped D resource d k
  stops : (D.answer resource.origin d k).outcome.stops resource.isLive = true

theorem unstopped_of_le {m n : Nat} (h : Unstopped D resource d n) (hmn : m ≤ n) :
    Unstopped D resource d m :=
  fun j hj => h j (Nat.lt_of_lt_of_le hj hmn)

theorem unstopped_of_stoppedBy_le {n : Nat} (h : ∀ k, StoppedBy D resource d k → n ≤ k) :
    Unstopped D resource d n := by
  intro j hj
  induction j using Nat.strongRecOn with
  | _ j ih =>
    by_contra hstop
    have hbefore : Unstopped D resource d j := fun i hi => ih i hi (Nat.lt_trans hi hj)
    have := h j ⟨hbefore, Bool.not_eq_false _ ▸ hstop⟩
    omega

theorem stoppedBy_iff_isLeast {k : Nat} :
    StoppedBy D resource d k ↔
      IsLeast {j | (D.answer resource.origin d j).outcome.stops resource.isLive = true} k := by
  constructor
  · intro h
    refine ⟨h.stops, fun j hj => ?_⟩
    by_contra hlt
    have hrunning := h.before j (Nat.lt_of_not_le hlt)
    exact Bool.false_ne_true (hrunning.symm.trans hj)
  · intro h
    refine ⟨fun j hj => ?_, h.1⟩
    rw [← Bool.not_eq_true]
    exact fun hstop => absurd (h.2 hstop) (Nat.not_le_of_lt hj)

theorem answer_of_holds {l : Lookahead σ P} {i : Nat}
    (h : l.Holds resource.isLive (D.answer resource.origin d i)) :
    l.answer D resource = D.answer resource.origin d (i + 1) := by
  rw [answer, h.decoder, ← Decoder.after_succ]
  rfl

/-- As long as nothing stops it, the stream goes through the answers in order. -/
theorem holds_after {i : Nat} (h : Unstopped D resource d i) :
    ((opened D resource d).after D resource i).Holds resource.isLive
      (D.answer resource.origin d i) := by
  induction i with
  | zero => exact holds_absorb rfl _
  | succ i ih =>
    have hi := ih (unstopped_of_le h (Nat.le_succ i))
    have hactive : ((opened D resource d).after D resource i).state = .active := by
      rw [hi.state]
      exact Outcome.lifecycle_eq_active_iff.mpr (h i (Nat.lt_succ_self i))
    rw [after_succ, pull_of_active hactive, ← answer_of_holds hi]
    exact holds_absorb hactive _

theorem active_after {i : Nat} (h : Unstopped D resource d (i + 1)) :
    ((opened D resource d).after D resource i).state = .active := by
  rw [(holds_after (unstopped_of_le h (Nat.le_succ i))).state]
  exact Outcome.lifecycle_eq_active_iff.mpr (h i (Nat.lt_succ_self i))

/-- A pull takes in the answer after the one it hands out. -/
theorem pulled_of_unstopped {i : Nat} (h : Unstopped D resource d (i + 1)) :
    (opened D resource d).pulled D resource i =
      let a := D.answer resource.origin d (i + 1)
      let offer := (D.answer resource.origin d i).offer resource.isLive
      if a.outcome = .readError then .error (.readFailed resource.url)
      else result resource (a.outcome.lifecycle resource.isLive .active)
        (if a.marksEnd resource.isLive then offer.map Body.asLast else offer) := by
  have hi := holds_after (unstopped_of_le h (Nat.le_succ i))
  have hactive := active_after h
  rw [pulled, pull_of_active hactive, answer_of_holds hi, hi.waiting]
  simp only [absorb, hactive]

theorem inactive_after_stop {k : Nat} (h : StoppedBy D resource d k) :
    ((opened D resource d).after D resource k).state ≠ .active := by
  rw [(holds_after h.before).state, ne_eq, Outcome.lifecycle_eq_active_iff, h.stops]
  decide

theorem pulled_of_stop {k : Nat} (h : StoppedBy D resource d k) :
    (opened D resource d).pulled D resource k =
      match (D.answer resource.origin d k).offer resource.isLive with
      | some body => .ok ⟨resource.origin, body⟩
      | none => .endOfStream none := by
  have hinactive := inactive_after_stop h
  rw [pulled, pull_of_inactive hinactive, (holds_after h.before).waiting]
  split
  · rename_i hoffer
    rw [hoffer]
    rfl
  · rename_i hoffer
    rw [hoffer]
    exact result_of_inactive hinactive

theorem ended_after {k i : Nat} (h : StoppedBy D resource d k) (hi : k < i) :
    ((opened D resource d).after D resource i).state ≠ .active ∧
      ((opened D resource d).after D resource i).waiting = none := by
  induction i with
  | zero => omega
  | succ i ih =>
    have hinactive : ((opened D resource d).after D resource i).state ≠ .active := by
      rcases Nat.lt_succ_iff_lt_or_eq.mp hi with hlt | rfl
      · exact (ih hlt).1
      · exact inactive_after_stop h
    rw [after_succ, pull_of_inactive hinactive]
    exact ⟨hinactive, rfl⟩

theorem pulled_after_stop {k i : Nat} (h : StoppedBy D resource d k) (hi : k < i) :
    (opened D resource d).pulled D resource i = .endOfStream none := by
  obtain ⟨hinactive, hwaiting⟩ := ended_after h hi
  rw [pulled, pull_of_inactive hinactive, hwaiting]
  exact result_of_inactive hinactive

theorem filter_range_lt (n k : Nat) :
    (List.range n).filter (fun i => decide (i < k)) = List.range (min n k) := by
  induction n with
  | zero => simp
  | succ n ih =>
    rw [List.range_succ, List.filter_append, ih]
    by_cases hk : n < k
    · rw [show min (n + 1) k = min n k + 1 by omega, List.range_succ, show min n k = n by omega]
      simp [hk]
    · rw [show min (n + 1) k = min n k by omega]
      simp [hk]

theorem filter_active_of_stop {k : Nat} (h : StoppedBy D resource d k) (n : Nat) :
    ((List.range n).filter fun i =>
      ((opened D resource d).after D resource i).state = .active) = List.range (min n k) := by
  rw [← filter_range_lt]
  refine List.filter_congr fun i _ => ?_
  by_cases hi : i < k
  · simp [hi, active_after (unstopped_of_le h.before hi)]
  · rcases Nat.eq_or_lt_of_not_lt hi with rfl | hlt
    · simp [inactive_after_stop h]
    · simp [(ended_after h hlt).1, hi]

theorem filter_active_of_unstopped (h : ∀ i, Unstopped D resource d i) (n : Nat) :
    ((List.range n).filter fun i =>
      ((opened D resource d).after D resource i).state = .active) = List.range n := by
  refine List.filter_eq_self.mpr fun i _ => ?_
  simp [active_after (h (i + 1))]

end Numbered

end Lookahead

namespace Stream

variable {D : Decoder σ P}

theorem value_pulls_succ (s : Stream σ P) (n : Nat) :
    (s.pulls D (n + 1)).value.1 =
      (s.advance D).value.1 :: ((s.advance D).value.2.pulls D n).value.1 := rfl

theorem events_pulls_succ (s : Stream σ P) (n : Nat) :
    (s.pulls D (n + 1)).events =
      (s.advance D).events ++ ((s.advance D).value.2.pulls D n).events := rfl

/-- What pulls in a row give, by their numbers. -/
theorem pulls_eq_map {s : Stream σ P} (h : s.Stamped) (n : Nat) :
    (s.pulls D n).value.1 = (List.range n).map (s.lookahead.pulled D s.resource) := by
  induction n generalizing s with
  | zero => rfl
  | succ n ih =>
    obtain ⟨hpull, hnext⟩ := lookahead_advance (D := D) h
    -- The pulls after the first one are those of the lookahead after its first pull.
    rw [value_pulls_succ, ih (stamped_advance h), hpull, hnext, resource_advance h,
      List.range_succ_eq_map, List.map_cons, List.map_map]
    refine congrArg (_ :: ·) (List.map_congr_left fun i _ => ?_)
    simp only [Lookahead.pulled, Lookahead.after_pull, Function.comp_apply]

/-- Before which pulls in a row the stream decodes, and into which slot. -/
theorem decodes_pulls {s : Stream σ P} (h : s.Stamped) (n : Nat) :
    Event.decodes (s.pulls D n).events =
      ((List.range n).filter fun i => (s.lookahead.after D s.resource i).state = .active).map
        fun i => (Side.other^[i + 1] s.buffer.ahead, { origin := s.resource.origin }) := by
  induction n generalizing s with
  | zero => rfl
  | succ n ih =>
    have hlater : (fun i => decide (((s.advance D).value.2.lookahead.after D s.resource i).state
        = .active)) =
          fun i => decide ((s.lookahead.after D s.resource (i + 1)).state = .active) := by
      funext i
      rw [(lookahead_advance h).2, Lookahead.after_pull]
    rw [events_pulls_succ, Event.decodes_append, decodes_advance h, ih (stamped_advance h),
      resource_advance h, hlater, ahead_advance h, List.range_succ_eq_map, List.filter_cons,
      List.filter_map]
    by_cases hactive : s.state = .active
    · have hfirst : decide ((s.lookahead.after D s.resource 0).state = .active) = true :=
        decide_eq_true hactive
      rw [if_pos hactive, if_pos hfirst, List.map_cons, List.map_map, List.singleton_append]
      rfl
    · have hfirst : ¬ decide ((s.lookahead.after D s.resource 0).state = .active) = true :=
        mt of_decide_eq_true hactive
      rw [if_neg hactive, if_neg hfirst, List.map_map, List.nil_append]
      rfl

end Stream
end RoutingDump
