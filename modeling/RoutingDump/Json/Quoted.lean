import RoutingDump.Json.Basic
import RoutingDump.Text.Utf8

/-!
# Quoted texts

A quoted text is read where its content matters, as a key, and skipped elsewhere. Reading asks
more of it: the halves of a surrogate pair must stand together, because half a pair is no
character. Skipping looks at the form of an escape only.
-/

namespace RoutingDump
namespace Json

def hexValue? (c : Char) : Option Nat :=
  if '0' ≤ c ∧ c ≤ '9' then some (c.toNat - 48)
  else if 'a' ≤ c ∧ c ≤ 'f' then some (c.toNat - 87)
  else if 'A' ≤ c ∧ c ≤ 'F' then some (c.toNat - 55)
  else none

/-- Four hexadecimal digits. A text with fewer than four bytes left ends too early, whatever the
bytes are. -/
def hexQuad : List Char → Except Fault (Nat × List Char)
  | a :: b :: c :: d :: r =>
    match hexValue? a, hexValue? b, hexValue? c, hexValue? d with
    | some a, some b, some c, some d => .ok (((a * 16 + b) * 16 + c) * 16 + d, r)
    | _, _, _, _ => .error .malformed
  | cs => if Text.Utf8.size cs < 4 then .error .truncated else .error .malformed

/-- What a backslash and a single letter stand for. -/
def letterEscape? : Char → Option Char
  | '"' => some '"'
  | '\\' => some '\\'
  | '/' => some '/'
  | 'b' => some (Char.ofNat 8)
  | 'f' => some (Char.ofNat 12)
  | 'n' => some '\n'
  | 'r' => some '\r'
  | 't' => some '\t'
  | _ => none

def isHighSurrogate (n : Nat) : Bool := 0xD800 ≤ n && n ≤ 0xDBFF

def isLowSurrogate (n : Nat) : Bool := 0xDC00 ≤ n && n ≤ 0xDFFF

/-- The character of a numeric escape, read behind its letter `u`. -/
def readNumericEscape (cs : List Char) : Except Fault (Char × List Char) :=
  match hexQuad cs with
  | .error e => .error e
  | .ok (n, r) =>
    if isLowSurrogate n then .error .malformed
    else if isHighSurrogate n then
      match r with
      | [] => .error .truncated
      | '\\' :: [] => .error .truncated
      | '\\' :: 'u' :: r =>
        match hexQuad r with
        | .error e => .error e
        | .ok (m, r) =>
          if isLowSurrogate m then
            .ok (Char.ofNat (0x10000 + (n - 0xD800) * 0x400 + (m - 0xDC00)), r)
          else .error .malformed
      | _ => .error .malformed
    else .ok (Char.ofNat n, r)

/-- The character of an escape, read behind its backslash. -/
def readEscape : List Char → Except Fault (Char × List Char)
  | [] => .error .truncated
  | c :: r =>
    if c = 'u' then readNumericEscape r
    else
      match letterEscape? c with
      | some x => .ok (x, r)
      | none => .error .malformed

def skipEscape : List Char → Except Fault (List Char)
  | [] => .error .truncated
  | c :: r =>
    if c = 'u' then
      match hexQuad r with
      | .error e => .error e
      | .ok (_, r) => .ok r
    else if (letterEscape? c).isSome then .ok r
    else .error .malformed

theorem length_hexQuad {cs r : List Char} {n : Nat} (h : hexQuad cs = .ok (n, r)) :
    r.length < cs.length := by
  unfold hexQuad at h
  split at h
  · split at h
    · cases h; simp; omega
    · cases h
  · split at h <;> cases h

theorem length_readNumericEscape {cs r : List Char} {c : Char}
    (h : readNumericEscape cs = .ok (c, r)) : r.length < cs.length := by
  unfold readNumericEscape at h
  split at h
  · cases h
  · rename_i h1
    have := length_hexQuad h1
    split at h
    · cases h
    · split at h
      · split at h
        · cases h
        · cases h
        · split at h
          · cases h
          · rename_i h2
            have := length_hexQuad h2
            split at h
            · simp only [Except.ok.injEq, Prod.mk.injEq] at h
              obtain ⟨_, rfl⟩ := h
              simp only [List.length_cons] at *
              omega
            · cases h
        · cases h
      · simp only [Except.ok.injEq, Prod.mk.injEq] at h
        obtain ⟨_, rfl⟩ := h
        assumption

theorem length_readEscape {cs r : List Char} {c : Char} (h : readEscape cs = .ok (c, r)) :
    r.length < cs.length := by
  unfold readEscape at h
  split at h
  · cases h
  · split at h
    · exact Nat.lt_succ_of_lt (length_readNumericEscape h)
    · split at h
      · cases h; simp
      · cases h

theorem length_skipEscape {cs r : List Char} (h : skipEscape cs = .ok r) :
    r.length < cs.length := by
  unfold skipEscape at h
  split at h
  · cases h
  · split at h
    · split at h
      · cases h
      · rename_i h1
        cases h
        exact Nat.lt_succ_of_lt (length_hexQuad h1)
    · split at h
      · cases h; simp
      · cases h

/-- Control characters may not stand in a quoted text as they are. -/
def isControl (c : Char) : Bool := c.toNat < 0x20

/-- Reads on to the closing quote, where `front` holds in reverse what was read so far. -/
def readQuotedOn (front : List Char) (cs : List Char) :
    Except Fault (List Char × List Char) :=
  match cs with
  | [] => .error .truncated
  | c :: r =>
    if c = '"' then .ok (front.reverse, r)
    else if c = '\\' then
      match h : readEscape r with
      | .error e => .error e
      | .ok (x, r') =>
        have := length_readEscape h
        readQuotedOn (x :: front) r'
    else if isControl c then .error .malformed
    else readQuotedOn (c :: front) r
termination_by cs.length

/-- The content of a quoted text, read behind its opening quote. -/
def readQuoted (cs : List Char) : Except Fault (List Char × List Char) := readQuotedOn [] cs

/-- Skips a quoted text behind its opening quote. -/
def skipQuoted (cs : List Char) : Except Fault (List Char) :=
  match cs with
  | [] => .error .truncated
  | c :: r =>
    if c = '"' then .ok r
    else if c = '\\' then
      match h : skipEscape r with
      | .error e => .error e
      | .ok r' =>
        have := length_skipEscape h
        skipQuoted r'
    else if isControl c then .error .malformed
    else skipQuoted r
termination_by cs.length

theorem length_readQuotedOn {front cs t r : List Char} (h : readQuotedOn front cs = .ok (t, r)) :
    r.length < cs.length := by
  fun_induction readQuotedOn front cs with
  | case1 => cases h
  | case2 => cases h; simp
  | case3 => cases h
  | case4 front r hq x r' he hlt ih =>
    have := ih h
    simp; omega
  | case5 => cases h
  | case6 front c r h1 h2 h3 ih => exact Nat.lt_succ_of_lt (ih h)

theorem length_readQuoted {cs t r : List Char} (h : readQuoted cs = .ok (t, r)) :
    r.length < cs.length := length_readQuotedOn h

theorem length_skipQuoted {cs r : List Char} (h : skipQuoted cs = .ok r) :
    r.length < cs.length := by
  fun_induction skipQuoted cs with
  | case1 => cases h
  | case2 => cases h; simp
  | case3 => cases h
  | case4 r hq r' he hlt ih =>
    have := ih h
    simp; omega
  | case5 => cases h
  | case6 c r h1 h2 h3 ih => exact Nat.lt_succ_of_lt (ih h)

end Json
end RoutingDump
