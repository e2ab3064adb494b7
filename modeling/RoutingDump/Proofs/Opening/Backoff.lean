import Mathlib.Data.Set.Basic
import Mathlib.Order.Bounds.Defs
import Mathlib.Tactic.Ring
import RoutingDump.Configuration.Basic
import RoutingDump.Proofs.Opening.Attempts

/-!
# The length of waits

A wait is computed in seconds and nanoseconds, with a carry from the one to the other and two
limits: one of the factor, one of the result. Counted in nanoseconds it is the exact product, cut
once at each limit. So waits double until they meet a limit, and never get shorter.
-/

namespace RoutingDump

open Text (maxWord32 maxWord64)

namespace Duration

theorem totalNanos_longest : longest.totalNanos = maxWord64 * nanosPerSec + 999999999 := rfl

theorem totalNanos_le_longest (d : Duration) : d.totalNanos ≤ longest.totalNanos := by
  have hsecs := d.secs.toNat_lt
  have hnanos := d.nanos_lt
  rw [totalNanos_longest]
  show d.secs.toNat * 1000000000 + d.nanos.toNat ≤ 18446744073709551615 * 1000000000 + 999999999
  omega

theorem isGreatest_longest : IsGreatest (Set.range totalNanos) longest.totalNanos := by
  refine ⟨⟨longest, rfl⟩, ?_⟩
  rintro n ⟨d, rfl⟩
  exact d.totalNanos_le_longest

theorem eq_of_totalNanos {d e : Duration} (h : d.totalNanos = e.totalNanos) : d = e := by
  have hd := d.nanos_lt
  have he := e.nanos_lt
  simp only [totalNanos, nanosPerSec] at h
  have hsecs : d.secs = e.secs := by
    apply UInt64.toNat_inj.mp
    omega
  have hnanos : d.nanos = e.nanos := by
    apply UInt32.toNat_inj.mp
    omega
  cases d
  cases e
  simp_all

/-- A length in nanoseconds fits into words as long as its whole seconds do. -/
theorem le_longest_iff (n : Nat) : n ≤ longest.totalNanos ↔ n / nanosPerSec ≤ maxWord64 := by
  simp only [totalNanos_longest, nanosPerSec, maxWord64]
  omega

theorem totalNanos_ofParts {secs : Nat} (h : secs ≤ maxWord64) (nanos : Nat) :
    (ofParts secs nanos).totalNanos = secs * nanosPerSec + nanos % nanosPerSec := by
  have hsecs : secs % 2 ^ 64 = secs := by
    apply Nat.mod_eq_of_lt
    simp only [maxWord64] at h
    omega
  have hnanos : nanos % nanosPerSec % 2 ^ 32 = nanos % nanosPerSec := by
    apply Nat.mod_eq_of_lt
    simp only [nanosPerSec]
    omega
  show (UInt64.ofNat secs).toNat * nanosPerSec + (UInt32.ofNat (nanos % nanosPerSec)).toNat = _
  rw [UInt64.toNat_ofNat', UInt32.toNat_ofNat', hsecs, hnanos]

theorem totalNanos_ofMillis {ms : Nat} (h : ms ≤ maxWord64) :
    (ofMillis ms).totalNanos = ms * 1000000 := by
  have hsecs : ms / 1000 ≤ maxWord64 := Nat.le_trans (Nat.div_le_self ms 1000) h
  rw [ofMillis, totalNanos_ofParts hsecs]
  simp only [nanosPerSec]
  omega

/-- The carry loses nothing: seconds and nanoseconds are multiplied one by one, but the result is
the product as a whole. -/
theorem totalNanos_saturatingMul (d : Duration) (factor : Nat) :
    (d.saturatingMul factor).totalNanos = min (d.totalNanos * factor) longest.totalNanos := by
  let nanos := d.nanos.toNat * factor
  let secs := d.secs.toNat * factor
  have hproduct : d.totalNanos * factor = nanosPerSec * secs + nanos := by
    simp only [totalNanos, secs, nanos]
    ring
  have hwhole : d.totalNanos * factor / nanosPerSec = secs + nanos / nanosPerSec := by
    rw [hproduct]
    exact Nat.mul_add_div (by decide) secs nanos
  have hfits := le_longest_iff (d.totalNanos * factor)
  rw [hwhole] at hfits
  by_cases h : secs + nanos / nanosPerSec ≤ maxWord64
  · have hsecs : secs ≤ maxWord64 := Nat.le_trans (Nat.le_add_right _ _) h
    have hmul : d.saturatingMul factor = ofParts (secs + nanos / nanosPerSec) nanos := by
      show (if secs ≤ maxWord64 then _ else _) = _
      rw [if_pos hsecs]
      exact if_pos h
    have hcarry := Nat.div_add_mod nanos nanosPerSec
    rw [hmul, totalNanos_ofParts h, Nat.min_eq_left (hfits.mpr h), hproduct, Nat.add_mul,
      Nat.mul_comm secs, Nat.mul_comm (nanos / nanosPerSec)]
    omega
  · have hmul : d.saturatingMul factor = longest := by
      show (if secs ≤ maxWord64 then _ else _) = _
      by_cases hsecs : secs ≤ maxWord64
      · rw [if_pos hsecs]
        exact if_neg h
      · exact if_neg hsecs
    have hlong := mt hfits.mp h
    rw [hmul, Nat.min_eq_right (by omega)]

end Duration

namespace RetryPolicy

theorem factor_eq (attempt : Nat) : factor attempt = min (2 ^ (attempt - 1)) maxFactor := by
  by_cases h : attempt - 1 < 32
  · have hpow : 2 ^ (attempt - 1) ≤ 2 ^ 31 := Nat.pow_le_pow_right (by decide) (by omega)
    have hmax : maxFactor = 2 ^ 32 - 1 := rfl
    rw [factor, if_pos h, Nat.min_eq_left (by omega)]
    rfl
  · have hpow : 2 ^ 32 ≤ 2 ^ (attempt - 1) := Nat.pow_le_pow_right (by decide) (by omega)
    have hmax : maxFactor = 2 ^ 32 - 1 := rfl
    rw [factor, if_neg h, Nat.min_eq_right (by omega)]

theorem factor_le (attempt : Nat) : factor attempt ≤ maxFactor := by
  rw [factor_eq]
  exact Nat.min_le_right _ _

theorem factor_mono {i j : Nat} (h : i ≤ j) : factor i ≤ factor j := by
  have hpow : 2 ^ (i - 1) ≤ 2 ^ (j - 1) := Nat.pow_le_pow_right (by decide) (by omega)
  rw [factor_eq, factor_eq]
  omega

/-- The limit of the factor is no power of two, so the last factor below it is the last one that
is twice the factor before. -/
theorem factor_succ {attempt : Nat} (hfirst : 1 ≤ attempt) (hlast : attempt < 32) :
    factor (attempt + 1) = 2 * factor attempt := by
  have hpow : 2 ^ (attempt - 1 + 1) = 2 ^ (attempt - 1) * 2 := Nat.pow_succ ..
  have hexp : attempt + 1 - 1 = attempt - 1 + 1 := by omega
  rw [factor, factor, if_pos (by omega), if_pos (by omega), hexp]
  show 2 ^ (attempt - 1 + 1) = 2 * 2 ^ (attempt - 1)
  omega

theorem eq_of_backoff {p : RetryPolicy} {attempt : Nat} {d : Duration}
    (h : p.backoff attempt = some d) : d = p.firstWait.saturatingMul (factor attempt) := by
  unfold backoff at h
  by_cases hlast : attempt ≥ p.maxAttempts.toNat
  · rw [if_pos hlast] at h
    cases h
  · rw [if_neg hlast] at h
    exact (Option.some.inj h).symm

theorem totalNanos_of_backoff {p : RetryPolicy} {attempt : Nat} {d : Duration}
    (h : p.backoff attempt = some d) :
    d.totalNanos = min (p.firstWait.totalNanos * factor attempt) Duration.longest.totalNanos := by
  rw [eq_of_backoff h, Duration.totalNanos_saturatingMul]

theorem exists_backoff_of_lt {p : RetryPolicy} {attempt : Nat}
    (h : attempt < p.maxAttempts.toNat) : ∃ d, p.backoff attempt = some d := by
  apply Option.ne_none_iff_exists'.mp
  intro hnone
  have hlast := backoff_eq_none_iff.mp hnone
  omega

/-- The waits of a policy whose first wait lasts `first` nanoseconds, each by the number of the
failed attempt before it. -/
structure Schedule (p : RetryPolicy) (first : Nat) : Prop where
  none_iff : ∀ attempt, p.backoff attempt = none ↔ p.maxAttempts.toNat ≤ attempt
  length_eq : ∀ attempt d, p.backoff attempt = some d →
    d.totalNanos =
      min (first * min (2 ^ (max attempt 1 - 1)) (2 ^ 32 - 1)) Duration.longest.totalNanos
  nanos_lt : ∀ attempt d, p.backoff attempt = some d → d.nanos.toNat < 1000000000
  /-- The factor and the product that a wait is computed from fit into words. -/
  fits : ∀ attempt, factor attempt < 2 ^ 32 ∧ p.firstWait.nanos.toNat * factor attempt < 2 ^ 64
  mono : ∀ i j d e, i ≤ j → p.backoff i = some d → p.backoff j = some e →
    d.totalNanos ≤ e.totalNanos
  doubles : ∀ attempt, 1 ≤ attempt → attempt < 32 → attempt + 1 < p.maxAttempts.toNat →
    ∃ d e, p.backoff attempt = some d ∧ p.backoff (attempt + 1) = some e ∧
      (e.totalNanos = 2 * d.totalNanos ∨ e = Duration.longest)

theorem nanos_mul_factor_lt (d : Duration) (attempt : Nat) :
    d.nanos.toNat * factor attempt < 2 ^ 64 := by
  have hfactor := factor_le attempt
  have hproduct := Nat.mul_le_mul (Nat.le_of_lt d.nanos_lt) hfactor
  have hlimit : 1000000000 * maxFactor < 2 ^ 64 := by decide
  omega

theorem schedule {p : RetryPolicy} {first : Nat} (hfirst : p.firstWait.totalNanos = first) :
    p.Schedule first where
  none_iff attempt := backoff_eq_none_iff
  length_eq attempt d h := by
    have hexp : max attempt 1 - 1 = attempt - 1 := by omega
    rw [totalNanos_of_backoff h, factor_eq, hfirst, hexp]
    rfl
  nanos_lt attempt d h := d.nanos_lt
  fits attempt := by
    have hfactor := factor_le attempt
    have hmax : maxFactor = 2 ^ 32 - 1 := rfl
    exact ⟨by omega, nanos_mul_factor_lt p.firstWait attempt⟩
  mono i j d e hij hd he := by
    have hproduct := Nat.mul_le_mul_left p.firstWait.totalNanos (factor_mono hij)
    rw [totalNanos_of_backoff hd, totalNanos_of_backoff he]
    omega
  doubles attempt hone hlast hmore := by
    have hthis : attempt < p.maxAttempts.toNat := by omega
    obtain ⟨d, hd⟩ := exists_backoff_of_lt hthis
    obtain ⟨e, he⟩ := exists_backoff_of_lt hmore
    refine ⟨d, e, hd, he, ?_⟩
    have hdnanos := totalNanos_of_backoff hd
    have henanos := totalNanos_of_backoff he
    rw [factor_succ hone hlast, Nat.mul_left_comm] at henanos
    by_cases hlong : e.totalNanos = Duration.longest.totalNanos
    · exact .inr (Duration.eq_of_totalNanos hlong)
    · left
      omega

/-- Every wait is the exact multiple of the first one, cut at the limit of the factor and at the
longest duration. That goes for any policy, also for one that a configuration asks for. -/
theorem backoff_schedule :
    IsGreatest (Set.range Duration.totalNanos) Duration.longest.totalNanos ∧
      (∀ p : RetryPolicy, p.Schedule p.firstWait.totalNanos) ∧
      ∀ c : Configuration, c.retryPolicy.maxAttempts = c.maxOpenAttempts ∧
        c.retryPolicy.Schedule (c.openRetryWaitMs.toNat * 1000000) := by
  refine ⟨Duration.isGreatest_longest, fun p => schedule rfl, fun c => ⟨rfl, schedule ?_⟩⟩
  apply Duration.totalNanos_ofMillis
  exact Nat.le_of_lt_succ c.openRetryWaitMs.toNat_lt

example : (List.range 5).map (fun i => (backoff {} (i + 1)).map Duration.secs) =
    [some 10, some 20, some 40, some 80, none] := by decide

end RetryPolicy
end RoutingDump
