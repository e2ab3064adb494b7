import Mathlib.Algebra.Group.Nat.Defs
import RoutingDump.Proofs.Medium.ReadLine
import RoutingDump.Proofs.Text.Cut
import RoutingDump.Text.Blank

/-!
# Reading is exact

Bytes are read as a text only if they are the bytes that the text is written in. So a piece of
bytes is either the encoding of a single text or of none, and a line feed behind it makes no
difference to that.
-/

namespace RoutingDump
namespace Text
namespace Utf8

/-- The bytes behind the first one in a character of `k + 1` bytes with the code `n`. -/
def trail : Nat → Nat → List UInt8
  | 0, _ => []
  | k + 1, n => UInt8.ofNat (n / 64 ^ k % 64 + 128) :: trail k n

theorem scalar?_eq_some {least code : Nat} {c : Char} (h : scalar? least code = some c) :
    c.toNat = code ∧ least ≤ code := by
  rw [scalar?] at h
  by_cases hvalid : code.isValidChar
  · rw [dif_pos hvalid] at h
    by_cases hleast : least ≤ code
    · rw [if_pos hleast] at h
      cases h
      exact ⟨rfl, hleast⟩
    · rw [if_neg hleast] at h
      cases h
  · rw [dif_neg hvalid] at h
    cases h

theorem continuation?_eq_some {b : UInt8} {bits : Nat} (h : continuation? b = some bits) :
    bits < 64 ∧ b = UInt8.ofNat (bits + 128) := by
  unfold continuation? at h
  split at h
  · rename_i hb
    obtain rfl := Option.some.inj h
    have hval : b.toNat - 0x80 + 128 = b.toNat := by omega
    refine ⟨by omega, ?_⟩
    rw [hval, UInt8.ofNat_toNat]
  · cases h

/-- The rest of a character that was begun, and what is read behind it. -/
theorem decodeFrom_within {decoded cs : List Char} {missing code least : Nat} {bs : List UInt8}
    (h : decodeFrom decoded (.within missing code least) bs = some cs) :
    ∃ c rest, bs = trail (missing + 1) c.toNat ++ rest ∧ c.toNat / 64 ^ (missing + 1) = code ∧
      least ≤ c.toNat ∧ decodeFrom (c :: decoded) .between rest = some cs := by
  -- The induction is on the number of bytes that the character lacks.
  induction missing generalizing code bs with
  | zero =>
    cases bs with
    | nil => cases h
    | cons b bs =>
      simp only [decodeFrom] at h
      split at h
      · cases h
      · rename_i bits hbits
        obtain ⟨hlt, rfl⟩ := continuation?_eq_some hbits
        split at h
        · cases h
        · rename_i c hc
          obtain ⟨hcode, hleast⟩ := scalar?_eq_some hc
          have hlast : c.toNat % 64 = bits := by omega
          refine ⟨c, bs, ?_, by omega, by omega, h⟩
          simp [trail, hlast]
  | succ missing ih =>
    cases bs with
    | nil => cases h
    | cons b bs =>
      simp only [decodeFrom] at h
      split at h
      · cases h
      · rename_i bits hbits
        obtain ⟨hlt, rfl⟩ := continuation?_eq_some hbits
        obtain ⟨c, rest, hrest, hcode, hleast, hlater⟩ := ih h
        have hfront : c.toNat / 64 ^ (missing + 1 + 1) = code := by
          rw [Nat.pow_succ, ← Nat.div_div_eq_div_mul, hcode]
          omega
        have hbyte : c.toNat / 64 ^ (missing + 1) % 64 = bits := by omega
        have htrail : trail (missing + 1 + 1) c.toNat =
            UInt8.ofNat (bits + 128) :: trail (missing + 1) c.toNat := by
          rw [trail, hbyte]
        refine ⟨c, rest, ?_, hfront, hleast, hlater⟩
        rw [hrest, htrail]
        rfl

theorem encodeChar_of_lead? {b : UInt8} {missing code least : Nat} {c : Char}
    (h : lead? b = some (missing, code, least)) (hcode : c.toNat / 64 ^ missing = code)
    (hleast : least ≤ c.toNat) : encodeChar c = b :: trail missing c.toNat := by
  have hval : c.val.toNat = c.toNat := rfl
  have hb {n : Nat} (hn : n = b.toNat) : UInt8.ofNat n = b := by rw [hn, UInt8.ofNat_toNat]
  simp only [encodeChar, String.utf8EncodeChar, hval]
  simp only [lead?] at h
  split at h
  · obtain ⟨rfl, rfl, rfl⟩ := by simpa using h
    have hsame : c.toNat = b.toNat := by simpa using hcode
    rw [if_pos (by omega), hb hsame]
    rfl
  · split at h
    · cases h
    · split at h
      · obtain ⟨rfl, rfl, rfl⟩ := by simpa using h
        have hc : c.toNat / 64 = b.toNat - 0xC0 := by simpa using hcode
        rw [if_neg (by omega), if_pos (by omega), hb (by omega)]
        simp [trail]
      · split at h
        · obtain ⟨rfl, rfl, rfl⟩ := by simpa using h
          have hc : c.toNat / 4096 = b.toNat - 0xE0 := by simpa using hcode
          rw [if_neg (by omega), if_neg (by omega), if_pos (by omega), hb (by omega)]
          simp [trail]
        · split at h
          · obtain ⟨rfl, rfl, rfl⟩ := by simpa using h
            have hc : c.toNat / 262144 = b.toNat - 0xF0 := by simpa using hcode
            rw [if_neg (by omega), if_neg (by omega), if_neg (by omega), hb (by omega)]
            simp [trail]
          · cases h

/-- What is read from the front of some bytes is a whole character. -/
theorem decodeFrom_between {decoded cs : List Char} {b : UInt8} {bs : List UInt8}
    (h : decodeFrom decoded .between (b :: bs) = some cs) :
    ∃ c rest, b :: bs = encodeChar c ++ rest ∧
      decodeFrom (c :: decoded) .between rest = some cs := by
  simp only [decodeFrom] at h
  split at h
  · cases h
  · rename_i code least hlead
    split at h
    · cases h
    · rename_i c hc
      obtain ⟨hcode, hleast⟩ := scalar?_eq_some hc
      have hchar := encodeChar_of_lead? hlead (by simpa using hcode) (hcode ▸ hleast)
      refine ⟨c, bs, ?_, h⟩
      rw [hchar]
      rfl
  · rename_i missing code least hlead
    obtain ⟨c, rest, hrest, hcode, hleast, hlater⟩ := decodeFrom_within h
    refine ⟨c, rest, ?_, hlater⟩
    rw [encodeChar_of_lead? hlead hcode hleast, hrest]
    rfl

theorem encode_of_decodeFrom {decoded cs : List Char} {bs : List UInt8}
    (h : decodeFrom decoded .between bs = some cs) : ∃ ds, cs = decoded.reverse ++ ds ∧
      bs = encode ds := by
  generalize hn : bs.length = n
  induction n using Nat.strongRecOn generalizing bs decoded with
  | ind n ih =>
    cases bs with
    | nil =>
      cases h
      exact ⟨[], (List.append_nil _).symm, rfl⟩
    | cons b bs =>
      obtain ⟨c, rest, hrest, hlater⟩ := decodeFrom_between h
      have hpos : 0 < (encodeChar c).length := List.length_pos_iff.mpr String.utf8EncodeChar_ne_nil
      have hshorter : rest.length < n := by
        rw [← hn, hrest, List.length_append]
        omega
      obtain ⟨ds, rfl, rfl⟩ := ih _ hshorter hlater rfl
      refine ⟨c :: ds, ?_, ?_⟩
      · rw [List.reverse_cons, List.append_assoc]
        rfl
      · rw [hrest, encode_cons]

/-- Bytes are read as a text if and only if they are the bytes of that text. -/
theorem decode?_eq_some_iff {bs : List UInt8} {cs : List Char} :
    decode? bs = some cs ↔ bs = encode cs := by
  constructor
  · intro h
    obtain ⟨ds, rfl, hds⟩ := encode_of_decodeFrom h
    exact hds
  · rintro rfl
    exact decode?_encode cs

theorem decode?_lineFeed (bs : List UInt8) :
    decode? (bs ++ [Medium.lineFeed]) = (decode? bs).map (· ++ ['\n']) := by
  have hfeed : decode? [Medium.lineFeed] = some ['\n'] := by decide
  cases hbs : decode? bs with
  | some cs =>
    rw [decode?_append hbs, hfeed]
    rfl
  | none =>
    rw [Option.map_none, Option.eq_none_iff_forall_ne_some]
    intro cs hcs
    have hencode := decode?_eq_some_iff.mp hcs
    rcases List.eq_nil_or_concat cs with rfl | ⟨front, c, rfl⟩
    · simp [encode] at hencode
    -- The last character ends in the line feed, so it is one.
    · have hlast : encode [c] = encodeChar c := List.flatMap_singleton _ _
      rw [List.concat_eq_append, encode_append, hlast] at hencode
      have hsome : encodeChar c ≠ [] := String.utf8EncodeChar_ne_nil
      have hend := congrArg List.getLast? hencode
      rw [List.getLast?_concat, List.getLast?_append_of_ne_nil _ hsome] at hend
      have hc : c = '\n' := by
        by_contra hne
        exact lineFeed_not_mem_encodeChar hne (List.mem_of_getLast? hend.symm)
      subst hc
      obtain ⟨rfl, -⟩ := List.append_inj' hencode rfl
      rw [decode?_encode] at hbs
      cases hbs

end Utf8

theorem trimStart_lineFeed (cs : List Char) :
    trimStart (cs ++ ['\n']) = if trimStart cs = [] then [] else trimStart cs ++ ['\n'] := by
  unfold trimStart
  rw [List.dropWhile_append]
  cases hcs : cs.dropWhile isBlank with
  | nil => simp [isBlank_lineFeed]
  | cons c cs => simp

theorem trimEnd_lineFeed (cs : List Char) : trimEnd (cs ++ ['\n']) = trimEnd cs := by
  unfold trimEnd
  rw [List.reverse_append, List.reverse_singleton, List.singleton_append,
    List.dropWhile_cons_of_pos isBlank_lineFeed]

theorem trim_lineFeed (cs : List Char) : trim (cs ++ ['\n']) = trim cs := by
  unfold trim
  rw [trimStart_lineFeed]
  by_cases hcs : trimStart cs = []
  · rw [if_pos hcs, hcs]
  · rw [if_neg hcs, trimEnd_lineFeed]

end Text
end RoutingDump
