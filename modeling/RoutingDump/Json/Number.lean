import RoutingDump.Json.Basic
import RoutingDump.Text.Numeral

/-!
# Numbers

A number that is skipped need only be well-formed. A number that is read must also be one that
binary floating point can hold, even where a whole number was asked for and the value is refused
afterwards; a magnitude beyond that is malformed. The two also differ in what they say of a number
that is cut off: a reader notices the end of the text, a skipper the missing digit.
-/

namespace RoutingDump
namespace Json

def startsWithDigit : List Char → Bool
  | c :: _ => isDigit c
  | [] => false

/-- What stands behind a sign, if there is one. -/
def behindSign : List Char → List Char
  | c :: r => if c = '+' ∨ c = '-' then r else c :: r
  | [] => []

/-- Skips an exponent, if there is one. -/
def skipExponent : List Char → Except Fault (List Char)
  | c :: r =>
    if c = 'e' ∨ c = 'E' then
      if startsWithDigit (behindSign r) then .ok ((behindSign r).dropWhile isDigit)
      else .error .malformed
    else .ok (c :: r)
  | [] => .ok []

/-- Skips a fraction and an exponent, as far as they are there. -/
def skipFraction : List Char → Except Fault (List Char)
  | c :: r =>
    if c = '.' then
      if startsWithDigit r then skipExponent (r.dropWhile isDigit) else .error .malformed
    else skipExponent (c :: r)
  | [] => .ok []

/-- Skips a number without its sign. A zero in front stands alone. -/
def skipMagnitude : List Char → Except Fault (List Char)
  | [] => .error .malformed
  | c :: r =>
    if c = '0' then if startsWithDigit r then .error .malformed else skipFraction r
    else if isDigit c then skipFraction (r.dropWhile isDigit)
    else .error .malformed

theorem length_behindSign (cs : List Char) : (behindSign cs).length ≤ cs.length := by
  unfold behindSign
  split
  · split
    · simp
    · exact Nat.le_refl _
  · exact Nat.le_refl _

theorem length_skipExponent {cs r : List Char} (h : skipExponent cs = .ok r) :
    r.length ≤ cs.length := by
  unfold skipExponent at h
  split at h
  · rename_i c t
    split at h
    · split at h
      · cases h
        exact Nat.le_succ_of_le
          (Nat.le_trans (length_dropWhile_le _ _) (length_behindSign t))
      · cases h
    · cases h; exact Nat.le_refl _
  · cases h; exact Nat.le_refl _

theorem length_skipFraction {cs r : List Char} (h : skipFraction cs = .ok r) :
    r.length ≤ cs.length := by
  unfold skipFraction at h
  split at h
  · rename_i c t
    split at h
    · split at h
      · have h1 := length_skipExponent h
        have h2 := length_dropWhile_le isDigit t
        simp; omega
      · cases h
    · exact length_skipExponent h
  · cases h; exact Nat.le_refl _

theorem length_skipMagnitude {cs r : List Char} (h : skipMagnitude cs = .ok r) :
    r.length < cs.length := by
  unfold skipMagnitude at h
  split at h
  · cases h
  · rename_i c t
    split at h
    · split at h
      · cases h
      · exact Nat.lt_succ_of_le (length_skipFraction h)
    · split at h
      · have h1 := length_skipFraction h
        have h2 := length_dropWhile_le isDigit t
        simp; omega
      · cases h

/-- A number read: a natural number in a word, or some other number. -/
inductive Number where
  | natural (n : Nat)
  | other
  deriving DecidableEq, Repr

/-- The value of one digit. -/
def digitValue (c : Char) : Nat := c.toNat - 48

/-- Appends digits to `significand` as long as it stays within a word. The second part are the
digits that did not fit. -/
def appendDigits (significand : Nat) : List Char → Nat × List Char
  | [] => (significand, [])
  | c :: cs =>
    let next := significand * 10 + digitValue c
    if next ≤ Text.maxWord64 then appendDigits next cs else (significand, c :: cs)

/-- The nearest number with at most 53 significant bits; of two as near, the one that is even in
its last bit. -/
def roundTo53 (n : Nat) : Nat :=
  let bits := n.log2 + 1
  if bits ≤ 53 then n
  else
    let unit := Nat.pow 2 (bits - 53)
    let q := n / unit
    let r := n % unit
    (if unit < 2 * r ∨ (unit = 2 * r ∧ q % 2 = 1) then q + 1 else q) * unit

/-- Whether `significand` times that power of ten is more than binary64 can hold. The factors are
rounded before they are multiplied. -/
def exceedsBinary64 (significand : Nat) (exponent : Int) : Bool :=
  if significand = 0 ∨ exponent < 0 then false
  else if 308 < exponent then true
  else
    let power := roundTo53 (Nat.pow 10 exponent.toNat)
    decide (Nat.pow 2 1024 ≤ roundTo53 (roundTo53 significand * power))

/-- A number with this value that is not a natural number in a word. -/
def other (significand : Nat) (exponent : Int) (rest : List Char) :
    Except Fault (Number × List Char) :=
  if exceedsBinary64 significand exponent then .error .malformed else .ok (.other, rest)

/-- The largest exponent that can be written out. -/
def maxExponent : Nat := 2147483647

/-- The value of an exponent's digits, or one above the largest if it is larger. -/
def exponentValue (digits : List Char) : Nat :=
  digits.foldl (fun n c => min (n * 10 + digitValue c) (maxExponent + 1)) 0

/-- Reads an exponent behind its letter. -/
def readExponent (significand : Nat) (exponent : Int) (cs : List Char) :
    Except Fault (Number × List Char) :=
  let negative := cs.head? == some '-'
  match behindSign cs with
  | [] => .error .truncated
  | c :: r =>
    if isDigit c then
      let value := exponentValue ((c :: r).takeWhile isDigit)
      let rest := (c :: r).dropWhile isDigit
      if maxExponent < value then
        if significand ≠ 0 ∧ ¬ negative then .error .malformed else .ok (.other, rest)
      else
        other significand (if negative then exponent - value else exponent + value) rest
    else .error .malformed

/-- Reads what follows the digits in front of a point. `excess` counts those that no longer fitted
into the significand. -/
def readFraction (significand excess : Nat) (cs : List Char) :
    Except Fault (Number × List Char) :=
  match cs with
  | [] => if excess = 0 then .ok (.natural significand, []) else other significand excess []
  | c :: r =>
    if c = '.' then
      let digits := r.takeWhile isDigit
      let rest := r.dropWhile isDigit
      if digits.isEmpty then
        if r.isEmpty then .error .truncated else .error .malformed
      else
        let (significand, left) := appendDigits significand digits
        let exponent : Int := (excess : Int) - ((digits.length - left.length : Nat) : Int)
        match rest with
        | e :: t =>
          if e = 'e' ∨ e = 'E' then readExponent significand exponent t
          else other significand exponent rest
        | [] => other significand exponent rest
    else if c = 'e' ∨ c = 'E' then readExponent significand excess r
    else if excess = 0 then .ok (.natural significand, cs)
    else other significand excess cs

/-- Reads a number without its sign. -/
def readMagnitude : List Char → Except Fault (Number × List Char)
  | [] => .error .truncated
  | c :: r =>
    if c = '0' then if startsWithDigit r then .error .malformed else readFraction 0 0 r
    else if isDigit c then
      let (significand, left) := appendDigits 0 ((c :: r).takeWhile isDigit)
      readFraction significand left.length ((c :: r).dropWhile isDigit)
    else .error .malformed

/-- Reads a number. No negative number is natural, negative zero included. -/
def readNumber : List Char → Except Fault (Number × List Char)
  | '-' :: r =>
    match readMagnitude r with
    | .error e => .error e
    | .ok (_, rest) => .ok (.other, rest)
  | cs => readMagnitude cs

theorem length_other {significand : Nat} {exponent : Int} {rest r : List Char} {n : Number}
    (h : other significand exponent rest = .ok (n, r)) : r = rest := by
  unfold other at h
  split at h
  · cases h
  · cases h; rfl

theorem length_readExponent {significand : Nat} {exponent : Int} {cs r : List Char} {n : Number}
    (h : readExponent significand exponent cs = .ok (n, r)) : r.length ≤ cs.length := by
  unfold readExponent at h
  dsimp only at h
  have h1 := length_behindSign cs
  split at h
  · cases h
  · rename_i c t hc
    have h2 := length_dropWhile_le isDigit (c :: t)
    rw [hc] at h1
    split at h
    · split at h
      · split at h
        · cases h
        · cases h; omega
      · rw [length_other h]; omega
    · cases h

theorem length_readFraction {significand excess : Nat} {cs r : List Char} {n : Number}
    (h : readFraction significand excess cs = .ok (n, r)) : r.length ≤ cs.length := by
  unfold readFraction at h
  split at h
  · split at h
    · cases h; exact Nat.le_refl _
    · exact Nat.le_of_eq (congrArg List.length (length_other h))
  · rename_i c t
    have h1 := length_dropWhile_le isDigit t
    simp only [List.length_cons]
    split at h
    · dsimp only at h
      split at h
      · split at h <;> cases h
      · split at h
        · rename_i hr
          rw [hr] at h1
          simp only [List.length_cons] at h1
          split at h
          · have h2 := length_readExponent h
            omega
          · rw [length_other h, hr]
            simp only [List.length_cons]
            omega
        · rename_i hr
          rw [length_other h, hr]
          simp
    · split at h
      · have h2 := length_readExponent h
        omega
      · split at h
        · cases h; simp
        · rw [length_other h]; simp

theorem length_readMagnitude {cs r : List Char} {n : Number}
    (h : readMagnitude cs = .ok (n, r)) : r.length < cs.length := by
  unfold readMagnitude at h
  split at h
  · cases h
  · rename_i c t
    split at h
    · split at h
      · cases h
      · exact Nat.lt_succ_of_le (length_readFraction h)
    · split at h
      · rename_i hd
        have h1 := length_readFraction h
        rw [List.dropWhile_cons_of_pos hd] at h1
        have h2 := length_dropWhile_le isDigit t
        simp only [List.length_cons]
        omega
      · cases h

theorem length_readNumber {cs r : List Char} {n : Number} (h : readNumber cs = .ok (n, r)) :
    r.length < cs.length := by
  unfold readNumber at h
  split at h
  · split at h
    · cases h
    · rename_i hm
      cases h
      exact Nat.lt_succ_of_lt (length_readMagnitude hm)
  · exact length_readMagnitude h

end Json
end RoutingDump
