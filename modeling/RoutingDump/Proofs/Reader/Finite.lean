import RoutingDump.Proofs.Reader.Opened
import RoutingDump.Script

/-!
# Pulls of a finite dump

A finite dump ends with the first answer that ends a dump or fails to read. Which pull still hands
out a record depends on that answer: the end of a dump carries none, the three other endings carry
one, and a failure takes the record before it along.
-/

namespace RoutingDump

variable {σ P : Type}

namespace Outcome

theorem stops_finite_iff {o : Outcome} :
    o.stops false = true ↔ o = .readError ∨ o.endsDump = true := by
  cases o <;> decide

theorem delivers_finite {o : Outcome} (h : o.stops false = false) : o.delivers false = true := by
  cases o <;> revert h <;> decide

theorem ne_readError_of_unstopped {live : Bool} {o : Outcome} (h : o.stops live = false) :
    o ≠ .readError := by
  rintro rfl
  cases h

end Outcome

namespace Decoded

theorem offer_finite {a : Decoded σ P} (h : a.outcome.stops false = false) :
    a.offer false = some a.body := by
  rw [offer, if_pos (Outcome.delivers_finite h)]

theorem marksEnd_finite_iff {a : Decoded σ P} :
    a.marksEnd false = true ↔ a.outcome = .endOfDump ∧ a.body.position = .last := by
  simp [marksEnd]

theorem not_marksEnd_of_unstopped {a : Decoded σ P} (h : a.outcome.stops false = false) :
    ¬ a.marksEnd false = true := by
  intro hmark
  rw [(marksEnd_finite_iff.mp hmark).1] at h
  cases h

end Decoded

namespace Lookahead

variable {D : Decoder σ P} {resource : Resource} {d : σ}

/-- A record that is followed by another is handed out as it was decoded. -/
theorem pulled_finite (hfinite : resource.isLive = false) {i : Nat}
    (h : Unstopped D resource d (i + 2)) :
    (opened D resource d).pulled D resource i =
      .ok ⟨resource.origin, (D.answer resource.origin d i).body⟩ := by
  have hi := h i (by omega)
  have hnext := h (i + 1) (by omega)
  rw [hfinite] at hi hnext
  rw [pulled_of_unstopped (unstopped_of_le h (by omega))]
  dsimp only
  rw [hfinite, if_neg (Outcome.ne_readError_of_unstopped hnext),
    if_neg (Decoded.not_marksEnd_of_unstopped hnext), Decoded.offer_finite hi]
  rfl

/-- The record in front of the answer that stops the stream. -/
theorem pulled_finite_before_stop (hfinite : resource.isLive = false) {k : Nat}
    (h : StoppedBy D resource d (k + 1)) :
    (opened D resource d).pulled D resource k =
      let a := D.answer resource.origin d (k + 1)
      let body := (D.answer resource.origin d k).body
      if a.outcome = .readError then .error (.readFailed resource.url)
      else .ok ⟨resource.origin,
        if a.outcome = .endOfDump ∧ a.body.position = .last then body.asLast else body⟩ := by
  have hk := h.before k (by omega)
  rw [hfinite] at hk
  rw [pulled_of_unstopped h.before]
  dsimp only
  rw [hfinite, Decoded.offer_finite hk]
  refine if_congr Iff.rfl rfl ?_
  by_cases hmark : (D.answer resource.origin d (k + 1)).marksEnd false = true
  · rw [if_pos hmark, if_pos (Decoded.marksEnd_finite_iff.mp hmark)]
    rfl
  · rw [if_neg hmark, if_neg (mt Decoded.marksEnd_finite_iff.mpr hmark)]
    rfl

end Lookahead

/-- Answer `k` is the first that ends the dump or fails to read. -/
def EndsAt (a : Nat → Decoded σ P) (k : Nat) : Prop :=
  IsLeast {j | (a j).outcome = .readError ∨ (a j).outcome.endsDump = true} k

/-- The pulls `p` of a finite dump whose decoder gives the answers `a`, all numbered from zero. -/
structure FinitePulls (resource : Resource) (a : Nat → Decoded σ P) (p : Nat → Pull P) : Prop where
  endless : (∀ k, ¬ EndsAt a k) → ∀ i, p i = .ok ⟨resource.origin, (a i).body⟩
  /-- The last record carries the mark of the end if the answer at the end does. -/
  ended : ∀ k, EndsAt a k → (a k).outcome = .endOfDump → ∀ i,
    p i =
      if i < k then
        .ok ⟨resource.origin,
          if i + 1 = k ∧ (a k).body.position = .last then (a i).body.asLast else (a i).body⟩
      else .endOfStream none
  /-- A dump that is filtered, empty or corrupted as a whole ends with a record that says so. -/
  reported : ∀ k, EndsAt a k →
    (a k).outcome = .filteredDump ∨ (a k).outcome = .emptyDump ∨ (a k).outcome = .corruptedDump →
    ∀ i, p i = if i ≤ k then .ok ⟨resource.origin, (a i).body⟩ else .endOfStream none
  /-- The record decoded before a failure is never handed out. -/
  failed : ∀ k, EndsAt a k → (a k).outcome = .readError → ∀ i,
    p i =
      if i + 1 < k then .ok ⟨resource.origin, (a i).body⟩
      else if i + 1 = k then .error (.readFailed resource.url)
      else .endOfStream none

namespace Lookahead

variable {D : Decoder σ P} {resource : Resource} {d : σ}

theorem stoppedBy_iff_endsAt (hfinite : resource.isLive = false) {k : Nat} :
    StoppedBy D resource d k ↔ EndsAt (D.answer resource.origin d) k := by
  rw [stoppedBy_iff_isLeast, hfinite]
  simp only [Outcome.stops_finite_iff]
  rfl

theorem finitePulls_opened (hfinite : resource.isLive = false) :
    FinitePulls resource (D.answer resource.origin d)
      ((opened D resource d).pulled D resource) where
  endless h i := by
    refine pulled_finite hfinite (unstopped_of_stoppedBy_le fun k hk => ?_)
    exact absurd ((stoppedBy_iff_endsAt hfinite).mp hk) (h k)
  ended k h hend i := by
    have hstop := (stoppedBy_iff_endsAt hfinite).mpr h
    rcases Nat.lt_trichotomy i k with hlt | rfl | hgt
    · rw [if_pos hlt]
      rcases Nat.lt_or_eq_of_le (Nat.succ_le_of_lt hlt) with hlt | rfl
      · rw [pulled_finite hfinite (unstopped_of_le hstop.before hlt), if_neg (by omega)]
      · rw [pulled_finite_before_stop hfinite hstop]
        simp [hend]
    · rw [pulled_of_stop hstop, if_neg (Nat.lt_irrefl i), hfinite, Decoded.offer, hend]
      rfl
    · rw [pulled_after_stop hstop hgt, if_neg (by omega)]
  reported k h hreport i := by
    have hstop := (stoppedBy_iff_endsAt hfinite).mpr h
    have hread : ¬ (D.answer resource.origin d k).outcome = .readError := by
      rcases hreport with ho | ho | ho <;> rw [ho] <;> decide
    have hend : ¬ (D.answer resource.origin d k).outcome = .endOfDump := by
      rcases hreport with ho | ho | ho <;> rw [ho] <;> decide
    have hdelivers : (D.answer resource.origin d k).outcome.delivers false = true := by
      rcases hreport with ho | ho | ho <;> rw [ho] <;> decide
    rcases Nat.lt_trichotomy i k with hlt | rfl | hgt
    · rw [if_pos (Nat.le_of_lt hlt)]
      rcases Nat.lt_or_eq_of_le (Nat.succ_le_of_lt hlt) with hlt | rfl
      · rw [pulled_finite hfinite (unstopped_of_le hstop.before hlt)]
      · rw [pulled_finite_before_stop hfinite hstop]
        simp [hread, hend]
    · rw [pulled_of_stop hstop, if_pos (Nat.le_refl i), hfinite, Decoded.offer, if_pos hdelivers]
    · rw [pulled_after_stop hstop hgt, if_neg (by omega)]
  failed k h hfail i := by
    have hstop := (stoppedBy_iff_endsAt hfinite).mpr h
    rcases Nat.lt_trichotomy i k with hlt | rfl | hgt
    · rcases Nat.lt_or_eq_of_le (Nat.succ_le_of_lt hlt) with hlt | rfl
      · rw [if_pos hlt, pulled_finite hfinite (unstopped_of_le hstop.before hlt)]
      · rw [if_neg (Nat.lt_irrefl _), if_pos rfl, pulled_finite_before_stop hfinite hstop]
        simp [hfail]
    · rw [pulled_of_stop hstop, if_neg (by omega), if_neg (by omega), hfinite, Decoded.offer, hfail]
      rfl
    · rw [pulled_after_stop hstop hgt, if_neg (by omega), if_neg (by omega)]

end Lookahead

namespace Reader

/-- The pulls of a finite dump are given by the answers of its decoder, however many there are. -/
theorem finite_pull_trace {ω : Type} {F : Format ω σ P} {policy : RetryPolicy}
    {resource : Resource} {w : ω} (hfinite : resource.isLive = false)
    (hopen : ((start resource policy w).openWait F).value.1 = .ok ()) :
    ∃ d, Opener.ready? F policy resource w = some d ∧
      ∃ p : Nat → Pull P,
        (∀ n, (start resource policy w).pulls F n = (List.range n).map p) ∧
          FinitePulls resource (F.answer resource.origin d) p := by
  obtain ⟨d, hready⟩ := openWait_ok_iff.mp hopen
  exact ⟨d, hready, _, fun n => pulls_ready hready n, Lookahead.finitePulls_opened hfinite⟩

/-- A script of two records and the end of the dump. -/
theorem finite_pull_trace_script :
    let resource : Resource :=
      { url := "dump", project := "p", collector := "c", recordType := .ribs, initialTime := 0 }
    let script : Script UInt32 :=
      .start [.timed .ok 10 .first, .timed .ok 20 .middle, .atEnd] false .atEnd []
    ∃ d, Opener.ready? Script.format {} resource script = some d ∧
      ∃ p : Nat → Pull UInt32,
        (∀ n, (start resource {} script).pulls Script.format n = (List.range n).map p) ∧
          FinitePulls resource (Script.decoder.answer resource.origin d) p :=
  finite_pull_trace rfl rfl

end Reader
end RoutingDump
