/-!
# Numerals

Numbers are read as an optional plus sign and one or more ASCII digits, with an upper limit. They
are written in decimal, in some places with zeros in front up to a fixed width.
-/

namespace RoutingDump
namespace Text

/-- The value of an ASCII digit. Digits of other scripts are not digits here. -/
def digitValue? (c : Char) : Option Nat :=
  if 48 ≤ c.toNat ∧ c.toNat ≤ 57 then some (c.toNat - 48) else none

/-- The value of a run of digits that continues a number with the value `acc`. -/
def digitsFrom? (acc : Nat) : List Char → Option Nat
  | [] => some acc
  | c :: cs =>
    match digitValue? c with
    | none => none
    | some d => digitsFrom? (10 * acc + d) cs

/-- The value of one or more digits. -/
def digits? : List Char → Option Nat
  | [] => none
  | cs => digitsFrom? 0 cs

/-- The value of a run of digits that continues a number with the value `acc`, if it is at most
`limit`. Reading ends where the number is too large, so no number much above the limit is made. -/
def boundedFrom? (limit acc : Nat) : List Char → Option Nat
  | [] => if acc ≤ limit then some acc else none
  | c :: cs =>
    if limit < acc then none
    else
      match digitValue? c with
      | none => none
      | some d => boundedFrom? limit (10 * acc + d) cs

/-- The value of one or more digits, if it is at most `limit`. -/
def bounded? (limit : Nat) : List Char → Option Nat
  | [] => none
  | cs => boundedFrom? limit 0 cs

/-- What follows an optional plus sign. -/
def afterPlus : List Char → List Char
  | '+' :: rest => rest
  | cs => cs

/-- An unsigned numeral of at most `limit`: an optional plus sign and one or more digits. -/
def unsigned? (limit : Nat) (cs : List Char) : Option Nat := bounded? limit (afterPlus cs)

/-- The largest value of an unsigned word of 32 bits. -/
def maxWord32 : Nat := 4294967295

/-- The largest value of an unsigned word of 64 bits. -/
def maxWord64 : Nat := 18446744073709551615

def word32? (cs : List Char) : Option UInt32 := (unsigned? maxWord32 cs).map UInt32.ofNat

/-- The decimal digits of `n`, most significant first. -/
def decimal (n : Nat) : List Char := Nat.toDigits 10 n

/-- Decimal digits with zeros in front up to `width` characters. -/
def padded (width n : Nat) : List Char :=
  let ds := decimal n
  List.replicate (width - ds.length) '0' ++ ds

/-- More digits do not make a number smaller. -/
theorem le_digitsFrom? {acc n : Nat} {cs : List Char} (h : digitsFrom? acc cs = some n) :
    acc ≤ n := by
  induction cs generalizing acc with
  | nil => cases h; exact Nat.le_refl _
  | cons c cs ih =>
    unfold digitsFrom? at h
    split at h
    · cases h
    · have := ih h
      omega

/-- Reading up to a limit gives the value of the digits unless that is above the limit. -/
theorem boundedFrom?_eq (limit acc : Nat) (cs : List Char) :
    boundedFrom? limit acc cs = (digitsFrom? acc cs).filter (· ≤ limit) := by
  induction cs generalizing acc with
  | nil => simp [boundedFrom?, digitsFrom?, Option.filter]
  | cons c cs ih =>
    unfold boundedFrom?
    split
    · rename_i hacc
      cases hd : digitsFrom? acc (c :: cs) with
      | none => rfl
      | some n =>
        have hn := le_digitsFrom? hd
        have : ¬ n ≤ limit := by omega
        simp [Option.filter, this]
    · unfold digitsFrom?
      split
      · rfl
      · exact ih _

theorem bounded?_eq (limit : Nat) (cs : List Char) :
    bounded? limit cs = (digits? cs).filter (· ≤ limit) := by
  cases cs with
  | nil => rfl
  | cons c cs => exact boundedFrom?_eq limit 0 (c :: cs)

theorem unsigned?_le {limit n : Nat} {cs : List Char} (h : unsigned? limit cs = some n) :
    n ≤ limit := by
  rw [unsigned?, bounded?_eq, Option.filter_eq_some_iff] at h
  exact of_decide_eq_true h.2

end Text
end RoutingDump
