import RoutingDump.Text.Numeral

/-!
# Numerals and their values

A numeral is said here without regard to how it is read: one or more digits, with or without a plus
sign, of which each counts ten times as much as the next. Reading comes to the value of a numeral up
to the limit and to nothing else, and what is written in decimal is a numeral of the number.
-/

namespace RoutingDump
namespace Text

/-- The value of some digits, the first of which counts most. -/
def digitsValue (cs : List Char) : Nat := cs.foldl (fun n c => 10 * n + (c.toNat - 48)) 0

/-- The text `cs` is an unsigned numeral of the value `n`. -/
inductive Numeral : (cs : List Char) → (n : Nat) → Prop
  | plain {ds : List Char} (hsome : ds ≠ []) (hdigits : ∀ c ∈ ds, c.isDigit = true) :
    Numeral ds (digitsValue ds)
  | signed {ds : List Char} (hsome : ds ≠ []) (hdigits : ∀ c ∈ ds, c.isDigit = true) :
    Numeral ('+' :: ds) (digitsValue ds)

theorem isDigit_iff {c : Char} : c.isDigit = true ↔ 48 ≤ c.toNat ∧ c.toNat ≤ 57 := by
  rw [Char.isDigit, Bool.and_eq_true, decide_eq_true_iff, decide_eq_true_iff]
  rfl

theorem digitValue?_eq (c : Char) :
    digitValue? c = if c.isDigit then some (c.toNat - 48) else none := by
  rw [digitValue?]
  by_cases hc : c.isDigit = true
  · rw [if_pos hc, if_pos (isDigit_iff.mp hc)]
  · rw [if_neg hc, if_neg (mt isDigit_iff.mpr hc)]

theorem digitsFrom?_eq_some_iff {acc n : Nat} {cs : List Char} :
    digitsFrom? acc cs = some n ↔
      (∀ c ∈ cs, c.isDigit = true) ∧ cs.foldl (fun n c => 10 * n + (c.toNat - 48)) acc = n := by
  induction cs generalizing acc with
  | nil => simp [digitsFrom?]
  | cons c cs ih =>
    rw [digitsFrom?, digitValue?_eq]
    by_cases hc : c.isDigit = true
    · rw [if_pos hc, List.forall_mem_cons, List.foldl_cons]
      exact ih.trans (by simp [hc])
    · rw [if_neg hc]
      simp [hc]

theorem digits?_eq_some_iff {n : Nat} {cs : List Char} :
    digits? cs = some n ↔ cs ≠ [] ∧ (∀ c ∈ cs, c.isDigit = true) ∧ digitsValue cs = n := by
  cases cs with
  | nil => simp [digits?]
  | cons c cs =>
    rw [digits?, digitsFrom?_eq_some_iff]
    · exact (and_iff_right (List.cons_ne_nil c cs)).symm
    · exact List.cons_ne_nil c cs

/-- A sign is no digit, so at most one sign is passed. -/
theorem numeral_iff {n : Nat} {cs : List Char} :
    Numeral cs n ↔ digits? (afterPlus cs) = some n := by
  constructor
  · rintro (⟨hsome, hdigits⟩ | ⟨hsome, hdigits⟩)
    · have hplain : afterPlus cs = cs := by
        unfold afterPlus
        split
        · cases hdigits '+' List.mem_cons_self
        · rfl
      rw [hplain, digits?_eq_some_iff]
      exact ⟨hsome, hdigits, rfl⟩
    · exact digits?_eq_some_iff.mpr ⟨hsome, hdigits, rfl⟩
  · unfold afterPlus
    intro h
    split at h
    · obtain ⟨hsome, hdigits, rfl⟩ := digits?_eq_some_iff.mp h
      exact .signed hsome hdigits
    · obtain ⟨hsome, hdigits, rfl⟩ := digits?_eq_some_iff.mp h
      exact .plain hsome hdigits

theorem unsigned?_eq_some_iff {limit n : Nat} {cs : List Char} :
    unsigned? limit cs = some n ↔ Numeral cs n ∧ n ≤ limit := by
  rw [unsigned?, bounded?_eq, Option.filter_eq_some_iff, numeral_iff, decide_eq_true_iff]

theorem word32?_of_numeral {n : Nat} {cs : List Char} (h : Numeral cs n) (hn : n ≤ maxWord32) :
    word32? cs = some (UInt32.ofNat n) := by
  rw [word32?, unsigned?_eq_some_iff.mpr ⟨h, hn⟩]
  rfl

/-! ### What is written in decimal -/

theorem digitsValue_concat (cs : List Char) (c : Char) :
    digitsValue (cs ++ [c]) = 10 * digitsValue cs + (c.toNat - 48) := List.foldl_append

theorem toNat_digitChar : ∀ d < 10, d.digitChar.toNat - 48 = d := by decide

theorem digitsValue_decimal (n : Nat) : digitsValue (decimal n) = n := by
  induction n using Nat.strongRecOn with
  | ind n ih =>
    rw [decimal, Nat.toDigits_eq_if (by decide)]
    by_cases hn : n < 10
    · rw [if_pos hn]
      exact (digitsValue_concat [] _).trans ((Nat.zero_add _).trans (toNat_digitChar n hn))
    · have hfront : digitsValue (Nat.toDigits 10 (n / 10)) = n / 10 := ih (n / 10) (by omega)
      rw [if_neg hn, digitsValue_concat, hfront, toNat_digitChar _ (Nat.mod_lt n (by decide))]
      omega

theorem digitsValue_zeros (k : Nat) (cs : List Char) :
    digitsValue (List.replicate k '0' ++ cs) = digitsValue cs := by
  induction k with
  | zero => rfl
  | succ k ih => exact ih

theorem isDigit_of_mem_decimal {n : Nat} {c : Char} (h : c ∈ decimal n) : c.isDigit = true :=
  Nat.isDigit_of_mem_toDigits (by decide) (by decide) h

theorem isDigit_of_mem_padded {width n : Nat} {c : Char} (h : c ∈ padded width n) :
    c.isDigit = true := by
  rcases List.mem_append.mp h with hzero | hdecimal
  · rw [List.eq_of_mem_replicate hzero]
    rfl
  · exact isDigit_of_mem_decimal hdecimal

theorem decimal_ne_nil (n : Nat) : decimal n ≠ [] :=
  List.ne_nil_of_length_pos Nat.length_toDigits_pos

theorem numeral_decimal (n : Nat) : Numeral (decimal n) n := by
  have h := Numeral.plain (decimal_ne_nil n) fun c hc => isDigit_of_mem_decimal hc
  rw [digitsValue_decimal] at h
  exact h

theorem numeral_padded (width n : Nat) : Numeral (padded width n) n := by
  have hsome : padded width n ≠ [] := List.append_ne_nil_of_right_ne_nil _ (decimal_ne_nil n)
  have h := Numeral.plain hsome fun c hc => isDigit_of_mem_padded hc
  rw [padded, digitsValue_zeros, digitsValue_decimal] at h
  exact h

end Text
end RoutingDump
