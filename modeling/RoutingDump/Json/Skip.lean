import RoutingDump.Json.Number
import RoutingDump.Json.Quoted

/-!
# Skipping values

A value under an unknown key is checked for its form only. The brackets that are still open are
kept in a list, so nesting may be as deep as the text is long.
-/

namespace RoutingDump
namespace Json

/-- An open bracket. -/
inductive Frame where
  | list
  | object
  deriving DecidableEq, Repr

def Frame.closer : Frame → Char
  | .list => ']'
  | .object => '}'

/-- Skips a value that is neither a list nor an object, from its first character `c` on. -/
def skipScalar (c : Char) (r : List Char) : Except Fault (List Char) :=
  if c = 'n' then skipWord ['u', 'l', 'l'] r
  else if c = 't' then skipWord ['r', 'u', 'e'] r
  else if c = 'f' then skipWord ['a', 'l', 's', 'e'] r
  else if c = '-' then skipMagnitude r
  else if isDigit c then skipMagnitude (c :: r)
  else if c = '"' then skipQuoted r
  else .error .malformed

/-- Skips what stands in front of the next value inside a bracket: in an object a key and its
colon. -/
def skipKey (f : Frame) (cs : List Char) : Except Fault (List Char) :=
  match f with
  | .list => .ok cs
  | .object =>
    match skipSpace cs with
    | [] => .error .truncated
    | c :: r =>
      if c = '"' then
        match skipQuoted r with
        | .error e => .error e
        | .ok r => skipColon r
      else .error .malformed

/-- Where the skipper stands behind a value: at the end of the whole, or in front of another value
with these brackets open. -/
inductive Stand where
  | done
  | value (stack : List Frame)
  deriving DecidableEq, Repr

/-- Goes on behind a value: closes brackets and looks for a comma. -/
def behindValue : List Frame → List Char → Except Fault (Stand × List Char)
  | [], cs => .ok (.done, cs)
  | f :: fs, cs =>
    match skipSpace cs with
    | [] => .error .truncated
    | c :: r =>
      if c = ',' then
        match skipKey f r with
        | .error e => .error e
        | .ok r => .ok (.value (f :: fs), r)
      else if c = f.closer then behindValue fs r
      else .error .malformed

/-- Goes on behind an opening bracket. -/
def behindOpening (f : Frame) (fs : List Frame) (cs : List Char) :
    Except Fault (Stand × List Char) :=
  match skipSpace cs with
  | [] => .error .truncated
  | c :: r =>
    if c = f.closer then behindValue fs r
    else
      match skipKey f (c :: r) with
      | .error e => .error e
      | .ok r => .ok (.value (f :: fs), r)

/-- Reads one value, or the opening bracket of one, and what follows it. -/
def skipStep (stack : List Frame) (cs : List Char) : Except Fault (Stand × List Char) :=
  match skipSpace cs with
  | [] => .error .truncated
  | c :: r =>
    if c = '[' then behindOpening .list stack r
    else if c = '{' then behindOpening .object stack r
    else
      match skipScalar c r with
      | .error e => .error e
      | .ok r => behindValue stack r

theorem length_skipScalar {c : Char} {cs r : List Char} (h : skipScalar c cs = .ok r) :
    r.length ≤ cs.length := by
  unfold skipScalar at h
  repeat' split at h
  · exact length_skipWord h
  · exact length_skipWord h
  · exact length_skipWord h
  · exact Nat.le_of_lt (length_skipMagnitude h)
  · exact Nat.le_of_lt_succ (length_skipMagnitude h)
  · exact Nat.le_of_lt (length_skipQuoted h)
  · cases h

theorem length_skipKey {f : Frame} {cs r : List Char} (h : skipKey f cs = .ok r) :
    r.length ≤ cs.length := by
  unfold skipKey at h
  split at h
  · cases h; exact Nat.le_refl _
  · split at h
    · cases h
    · rename_i hs
      have h1 := length_of_skipSpace hs
      split at h
      · split at h
        · cases h
        · rename_i hq
          have h2 := length_skipQuoted hq
          have h3 := length_skipColon h
          omega
      · cases h

theorem length_behindValue {fs : List Frame} {cs r : List Char} {s : Stand}
    (h : behindValue fs cs = .ok (s, r)) : r.length ≤ cs.length := by
  induction fs generalizing cs with
  | nil => cases h; exact Nat.le_refl _
  | cons f fs ih =>
    unfold behindValue at h
    split at h
    · cases h
    · rename_i hs
      have h1 := length_of_skipSpace hs
      split at h
      · split at h
        · cases h
        · rename_i hk
          have h2 := length_skipKey hk
          cases h
          omega
      · split at h
        · have h2 := ih h
          omega
        · cases h

theorem length_behindOpening {f : Frame} {fs : List Frame} {cs r : List Char} {s : Stand}
    (h : behindOpening f fs cs = .ok (s, r)) : r.length ≤ cs.length := by
  unfold behindOpening at h
  split at h
  · cases h
  · rename_i hs
    have h1 := length_of_skipSpace hs
    split at h
    · have h2 := length_behindValue h
      omega
    · split at h
      · cases h
      · rename_i hk
        have h2 := length_skipKey hk
        simp only [List.length_cons] at h2
        cases h
        omega

theorem length_skipStep {stack : List Frame} {cs r : List Char} {s : Stand}
    (h : skipStep stack cs = .ok (s, r)) : r.length < cs.length := by
  unfold skipStep at h
  split at h
  · cases h
  · rename_i hs
    have h1 := length_of_skipSpace hs
    split at h
    · have h2 := length_behindOpening h
      omega
    · split at h
      · have h2 := length_behindOpening h
        omega
      · split at h
        · cases h
        · rename_i hsc
          have h2 := length_skipScalar hsc
          have h3 := length_behindValue h
          omega

/-- Skips values until no bracket of `stack` is open any more. -/
def skipFrom (stack : List Frame) (cs : List Char) : Except Fault (List Char) :=
  match h : skipStep stack cs with
  | .error e => .error e
  | .ok (.done, r) => .ok r
  | .ok (.value stack', r) =>
    have := length_skipStep h
    skipFrom stack' r
termination_by cs.length

/-- Skips one value. -/
def skipValue (cs : List Char) : Except Fault (List Char) := skipFrom [] cs

theorem length_skipFrom {stack : List Frame} {cs r : List Char} (h : skipFrom stack cs = .ok r) :
    r.length < cs.length := by
  fun_induction skipFrom stack cs with
  | case1 => cases h
  | case2 => cases h; exact length_skipStep (by assumption)
  | case3 stack cs stack' r' hs hlt ih =>
    have := ih h
    omega

theorem length_skipValue {cs r : List Char} (h : skipValue cs = .ok r) :
    r.length < cs.length := length_skipFrom h

/-- What is wrong with a value of another type than was asked for. A list or an object is wrong
from its bracket on; a scalar must at least be well-formed to be merely unsuitable. -/
def mismatch (cs : List Char) : Fault :=
  let judge {α : Type} (scan : Except Fault α) : Fault :=
    match scan with
    | .error e => e
    | .ok _ => .unsuitable
  match cs with
  | [] => .truncated
  | c :: r =>
    if c = 'n' then judge (skipWord ['u', 'l', 'l'] r)
    else if c = 't' then judge (skipWord ['r', 'u', 'e'] r)
    else if c = 'f' then judge (skipWord ['a', 'l', 's', 'e'] r)
    else if c = '-' ∨ isDigit c then judge (readNumber (c :: r))
    else if c = '"' then judge (readQuoted r)
    else if c = '[' ∨ c = '{' then .unsuitable
    else .malformed

/-- Reads a natural number of at most `limit`. -/
def readNatural (limit : Nat) (cs : List Char) : Except Fault (Nat × List Char) :=
  match skipSpace cs with
  | [] => .error .truncated
  | c :: r =>
    if c = '-' ∨ isDigit c then
      match readNumber (c :: r) with
      | .error e => .error e
      | .ok (.natural n, rest) => if n ≤ limit then .ok (n, rest) else .error .unsuitable
      | .ok (.other, _) => .error .unsuitable
    else .error (mismatch (c :: r))

theorem length_readNatural {limit n : Nat} {cs r : List Char}
    (h : readNatural limit cs = .ok (n, r)) : r.length < cs.length := by
  unfold readNatural at h
  split at h
  · cases h
  · rename_i hs
    have h1 := length_skipSpace cs
    rw [hs] at h1
    split at h
    · split at h
      · cases h
      · rename_i hn
        have h2 := length_readNumber hn
        split at h
        · cases h; omega
        · cases h
      · cases h
    · cases h

end Json
end RoutingDump
