import RoutingDump.Proofs.Reader.Opened
import RoutingDump.Script

/-!
# Pulls of a live stream

Only a failure ends a live stream. An answer that would end a finite dump means that nothing is
there at the moment: the pull that would hand out its record says so, and no record is lost or
handed out again on that account.
-/

namespace RoutingDump

variable {σ P : Type}

namespace Outcome

theorem stops_live_iff {o : Outcome} : o.stops true = true ↔ o = .readError := by
  cases o <;> decide

theorem stops_live_eq_false_iff {o : Outcome} : o.stops true = false ↔ o ≠ .readError := by
  rw [← Bool.not_eq_true, stops_live_iff]

theorem delivers_live {o : Outcome} (h : o ≠ .readError) : o.delivers true = !o.endsDump := by
  cases o <;> first | rfl | exact absurd rfl h

theorem lifecycle_live {o : Outcome} (h : o ≠ .readError) : o.lifecycle true .active = .active :=
  lifecycle_eq_active_iff.mpr (stops_live_eq_false_iff.mpr h)

end Outcome

theorem Decoded.offer_live {a : Decoded σ P} (h : a.outcome ≠ .readError) :
    a.offer true = if a.outcome.endsDump = true then none else some a.body := by
  rw [offer, Outcome.delivers_live h]
  cases a.outcome.endsDump <;> rfl

/-- Answer `k` is the first that fails to read. -/
def FailsAt (a : Nat → Decoded σ P) (k : Nat) : Prop :=
  IsLeast {j | (a j).outcome = .readError} k

/-- The pulls `p` of a live stream whose decoder gives the answers `a`, all numbered from zero. -/
structure LivePulls (resource : Resource) (a : Nat → Decoded σ P) (p : Nat → Pull P) : Prop where
  /-- A record is handed out as it was decoded, and it is never marked as the last one. -/
  running : ∀ i, (∀ k, FailsAt a k → i + 1 < k) →
    p i = if (a i).outcome.endsDump = true then .again else .ok ⟨resource.origin, (a i).body⟩
  /-- What was decoded right before a failure is never handed out. -/
  failing : ∀ k, FailsAt a k → ∀ i, i + 1 = k → p i = .error (.readFailed resource.url)
  failed : ∀ k, FailsAt a k → ∀ i ≥ k, p i = .endOfStream none

namespace Lookahead

variable {D : Decoder σ P} {resource : Resource} {d : σ}

theorem stoppedBy_iff_failsAt (hlive : resource.isLive = true) {k : Nat} :
    StoppedBy D resource d k ↔ FailsAt (D.answer resource.origin d) k := by
  rw [stoppedBy_iff_isLeast, hlive]
  simp only [Outcome.stops_live_iff]
  rfl

theorem state_absorb_live {l : Lookahead σ P} {a : Decoded σ P} (hactive : l.state = .active)
    (h : a.outcome ≠ .readError) : (l.absorb true a).state = .active := by
  show a.outcome.lifecycle true l.state = .active
  rw [hactive]
  exact Outcome.lifecycle_live h

/-- As long as nothing fails, a pull hands out the answer it waits for or says that there is
nothing. -/
theorem pulled_live (hlive : resource.isLive = true) {i : Nat}
    (h : Unstopped D resource d (i + 2)) :
    (opened D resource d).pulled D resource i =
      if (D.answer resource.origin d i).outcome.endsDump = true then .again
      else .ok ⟨resource.origin, (D.answer resource.origin d i).body⟩ := by
  have hi := h i (by omega)
  have hnext := h (i + 1) (by omega)
  rw [hlive, Outcome.stops_live_eq_false_iff] at hi hnext
  rw [pulled_of_unstopped (unstopped_of_le h (by omega))]
  dsimp only
  rw [if_neg hnext, hlive, Outcome.lifecycle_live hnext, Decoded.offer_live hi]
  by_cases hquiet : (D.answer resource.origin d i).outcome.endsDump = true
  · rw [if_pos hquiet, if_pos hquiet]
    simp [Decoded.marksEnd, result, hlive]
  · rw [if_neg hquiet, if_neg hquiet]
    simp [Decoded.marksEnd, result]

theorem livePulls_opened (hlive : resource.isLive = true) :
    LivePulls resource (D.answer resource.origin d)
      ((opened D resource d).pulled D resource) where
  running i h :=
    pulled_live hlive
      (unstopped_of_stoppedBy_le fun k hk => h k ((stoppedBy_iff_failsAt hlive).mp hk))
  failing k h i hi := by
    subst hi
    have hstop := (stoppedBy_iff_failsAt hlive).mpr h
    rw [pulled_of_unstopped hstop.before]
    exact if_pos h.1
  failed k h i hi := by
    have hstop := (stoppedBy_iff_failsAt hlive).mpr h
    rcases Nat.lt_or_eq_of_le hi with hlt | rfl
    · exact pulled_after_stop hstop hlt
    · have hnone : (D.answer resource.origin d k).offer resource.isLive = none := by
        rw [Decoded.offer, show (D.answer resource.origin d k).outcome = .readError from h.1]
        rfl
      rw [pulled_of_stop hstop, hnone]

end Lookahead

namespace Reader

variable {ω : Type} {F : Format ω σ P} {policy : RetryPolicy} {resource : Resource} {w : ω}

theorem length_decodes_of_failsAt {d : σ} (hlive : resource.isLive = true)
    (hready : Opener.ready? F policy resource w = some d) {k : Nat}
    (h : FailsAt (F.answer resource.origin d) k) (n : Nat) :
    (Event.decodes
        ((start resource policy w).calls F (.openWait :: List.replicate n .next)).events).length =
      min (n + 1) (k + 1) := by
  have hstop := (Lookahead.stoppedBy_iff_failsAt hlive).mpr h
  rw [decodes_ready hready, Lookahead.filter_active_of_stop hstop]
  simp only [List.length_cons, List.length_map, List.length_range]
  omega

theorem length_decodes_of_not_failsAt {d : σ} (hlive : resource.isLive = true)
    (hready : Opener.ready? F policy resource w = some d)
    (h : ∀ k, ¬ FailsAt (F.answer resource.origin d) k) (n : Nat) :
    (Event.decodes
        ((start resource policy w).calls F (.openWait :: List.replicate n .next)).events).length =
      n + 1 := by
  have hrunning (i : Nat) : Lookahead.Unstopped F.toDecoder resource d i :=
    Lookahead.unstopped_of_stoppedBy_le fun k hk =>
      absurd ((Lookahead.stoppedBy_iff_failsAt hlive).mp hk) (h k)
  rw [decodes_ready hready, Lookahead.filter_active_of_unstopped hrunning]
  simp only [List.length_cons, List.length_map, List.length_range]

/-- The pulls of a live stream are given by the answers of its decoder, and the decoder is asked
once for the open and once for every pull, up to the first failure. -/
theorem live_pull_trace (hlive : resource.isLive = true)
    (hopen : ((start resource policy w).openWait F).value.1 = .ok ()) :
    ∃ d, Opener.ready? F policy resource w = some d ∧
      ∃ p : Nat → Pull P,
        (∀ n, (start resource policy w).pulls F n = (List.range n).map p) ∧
          LivePulls resource (F.answer resource.origin d) p ∧
          (∀ k, FailsAt (F.answer resource.origin d) k → ∀ n,
            (Event.decodes ((start resource policy w).calls F
              (.openWait :: List.replicate n .next)).events).length = min (n + 1) (k + 1)) ∧
          ((∀ k, ¬ FailsAt (F.answer resource.origin d) k) → ∀ n,
            (Event.decodes ((start resource policy w).calls F
              (.openWait :: List.replicate n .next)).events).length = n + 1) := by
  obtain ⟨d, hready⟩ := openWait_ok_iff.mp hopen
  refine ⟨d, hready, _, fun n => pulls_ready hready n, Lookahead.livePulls_opened hlive, ?_, ?_⟩
  · exact fun k hk n => length_decodes_of_failsAt hlive hready hk n
  · exact fun hnone n => length_decodes_of_not_failsAt hlive hready hnone n

/-- A script that is quiet between two records and then fails. -/
theorem live_pull_trace_script :
    let resource : Resource :=
      { url := "feed", project := "p", collector := "c", recordType := .updates, initialTime := 0
        extent := .forever }
    let script : Script UInt32 :=
      .start [.timed .ok 10 .first, .atEnd, .timed .ok 20 .last, .timed .readError 0 .first]
        false .atEnd []
    ∃ d, Opener.ready? Script.format {} resource script = some d ∧
      ∃ p : Nat → Pull UInt32,
        (∀ n, (start resource {} script).pulls Script.format n = (List.range n).map p) ∧
          LivePulls resource (Script.decoder.answer resource.origin d) p ∧
          (∀ k, FailsAt (Script.decoder.answer resource.origin d) k → ∀ n,
            (Event.decodes ((start resource {} script).calls Script.format
              (.openWait :: List.replicate n .next)).events).length = min (n + 1) (k + 1)) ∧
          ((∀ k, ¬ FailsAt (Script.decoder.answer resource.origin d) k) → ∀ n,
            (Event.decodes ((start resource {} script).calls Script.format
              (.openWait :: List.replicate n .next)).events).length = n + 1) :=
  live_pull_trace rfl rfl

end Reader
end RoutingDump
