import RoutingDump.Proofs.Medium.ReadLine
import RoutingDump.Proofs.Text.Cut

/-!
# Boundaries between characters

A byte tells by itself whether it goes on with a character. So encoded text shows where it may be
cut without a look at what stands in front, and the last such place up to an index is found on the
way down from there.
-/

namespace RoutingDump
namespace Text
namespace Utf8

theorem size_append (cs ds : List Char) : size (cs ++ ds) = size cs + size ds := by
  induction cs with
  | nil => rw [List.nil_append, size, Nat.zero_add]
  | cons c cs ih => rw [List.cons_append, size, size, ih, Nat.add_assoc]

theorem length_encode (cs : List Char) : (encode cs).length = size cs := by
  induction cs with
  | nil => rfl
  | cons c cs ih =>
    rw [encode_cons, List.length_append, ih, encodeChar, String.length_utf8EncodeChar, size]

theorem utf8ByteSize_ofList (cs : List Char) : (String.ofList cs).utf8ByteSize = size cs := by
  rw [String.utf8ByteSize, String.toByteArray_ofList, List.utf8Encode, List.size_toByteArray]
  exact length_encode cs

theorem size_toList (s : String) : size s.toList = s.utf8ByteSize := by
  rw [← utf8ByteSize_ofList, String.ofList_toList]

theorem size_le_of_isPrefix {cs ds : List Char} (h : cs <+: ds) : size cs ≤ size ds := by
  obtain ⟨rest, rfl⟩ := h
  rw [size_append]
  exact Nat.le_add_right _ _

theorem take_encode {front cs : List Char} (h : front <+: cs) :
    (encode cs).take (size front) = encode front := by
  obtain ⟨rest, rfl⟩ := h
  rw [encode_append, ← length_encode, List.take_left]

theorem continuation?_eq_none {b : UInt8} (h : b.toNat < 0x80 ∨ 0xC0 ≤ b.toNat) :
    continuation? b = none := by
  unfold continuation?
  rw [if_neg (by omega)]

/-- The first byte of a character is the only one that does not go on with it. -/
theorem encodeChar_eq_cons (c : Char) :
    ∃ b bs, encodeChar c = b :: bs ∧ continuation? b = none ∧
      ∀ b' ∈ bs, continuation? b' ≠ none := by
  have hc := toNat_lt c
  have hval : c.val.toNat = c.toNat := rfl
  have hfirst {n : Nat} (hn : n < 256) (hlead : n < 0x80 ∨ 0xC0 ≤ n) :
      continuation? (UInt8.ofNat n) = none := by
    apply continuation?_eq_none
    rw [toNat_ofNat_of_lt hn]
    exact hlead
  have hlater (n : Nat) : continuation? (UInt8.ofNat (n % 64 + 128)) ≠ none := by
    rw [continuation?_ofNat (Nat.mod_lt n (by decide))]
    exact Option.some_ne_none _
  simp only [encodeChar, String.utf8EncodeChar, hval]
  split
  · exact ⟨_, _, rfl, hfirst (by omega) (by omega), List.forall_mem_nil _⟩
  · split
    · refine ⟨_, _, rfl, hfirst (by omega) (by omega), ?_⟩
      exact List.forall_mem_singleton.mpr (hlater _)
    · split
      · refine ⟨_, _, rfl, hfirst (by omega) (by omega), ?_⟩
        exact List.forall_mem_cons.mpr ⟨hlater _, List.forall_mem_singleton.mpr (hlater _)⟩
      · refine ⟨_, _, rfl, hfirst (by omega) (by omega), ?_⟩
        exact List.forall_mem_cons.mpr ⟨hlater _, List.forall_mem_cons.mpr
          ⟨hlater _, List.forall_mem_singleton.mpr (hlater _)⟩⟩

/-- Whether the bytes may be cut in front of index `i`. -/
def isBoundary (bs : List UInt8) (i : Nat) : Bool :=
  i = 0 || i = bs.length || bs[i]?.any fun b => (continuation? b).isNone

/-- The first boundary on the way down from index `i`. There is none if the way leads below 0. -/
def lastBoundary? (bs : List UInt8) : Nat → Option Nat
  | 0 => if isBoundary bs 0 then some 0 else none
  | i + 1 => if isBoundary bs (i + 1) then some (i + 1) else lastBoundary? bs i

theorem isBoundary_iff {bs : List UInt8} {i : Nat} :
    isBoundary bs i = true ↔
      i = 0 ∨ i = bs.length ∨ ∃ b, bs[i]? = some b ∧ continuation? b = none := by
  simp [isBoundary, or_assoc, Option.any_eq_true]

theorem isBoundary_of_append {bs ds : List UInt8} {i : Nat}
    (h : isBoundary (bs ++ ds) (bs.length + i) = true) : isBoundary ds i = true := by
  rw [isBoundary_iff] at h ⊢
  rw [List.length_append, List.getElem?_append_right (Nat.le_add_right _ _),
    Nat.add_sub_cancel_left] at h
  rcases h with hzero | hend | hbyte
  · exact .inl (by omega)
  · exact .inr (.inl (by omega))
  · exact .inr (.inr hbyte)

theorem isBoundary_of_isPrefix {front cs : List Char} (h : front <+: cs) :
    isBoundary (encode cs) (size front) = true := by
  obtain ⟨rest, rfl⟩ := h
  rw [isBoundary_iff, length_encode, size_append]
  cases rest with
  | nil => exact .inr (.inl rfl)
  | cons c rest =>
    obtain ⟨b, bs, hchar, hfirst, -⟩ := encodeChar_eq_cons c
    refine .inr (.inr ⟨b, ?_, hfirst⟩)
    rw [encode_append, encode_cons, hchar, ← length_encode,
      List.getElem?_append_right (Nat.le_refl _), Nat.sub_self]
    rfl

/-- No boundary lies within a character. -/
theorem isBoundary_within {c : Char} {cs : List Char} {i : Nat} (hpos : 0 < i)
    (hlt : i < c.utf8Size) : isBoundary (encode (c :: cs)) i = false := by
  obtain ⟨b, bs, hchar, -, hlater⟩ := encodeChar_eq_cons c
  have hlen : c.utf8Size = bs.length + 1 := by
    rw [← String.length_utf8EncodeChar]
    exact congrArg List.length hchar
  have hfits : i - 1 < bs.length := by omega
  apply Bool.eq_false_iff.mpr
  rw [Ne, isBoundary_iff, length_encode, size]
  rintro (hzero | hend | ⟨b', hb', hnone⟩)
  · omega
  · omega
  · rw [encode_cons, hchar, List.cons_append, List.getElem?_cons, if_neg (by omega),
      List.getElem?_append_left hfits] at hb'
    exact hlater b' (List.mem_of_getElem? hb') hnone

/-- The boundaries of encoded text are the lengths of what stands in front of its characters. -/
theorem isBoundary_encode_iff {cs : List Char} {i : Nat} :
    isBoundary (encode cs) i = true ↔ ∃ front, front <+: cs ∧ size front = i := by
  constructor
  · intro h
    induction cs generalizing i with
    | nil =>
      refine ⟨[], List.nil_prefix, ?_⟩
      simpa [isBoundary, encode, size, eq_comm] using h
    | cons c cs ih =>
      rcases Nat.eq_zero_or_pos i with rfl | hpos
      · exact ⟨[], List.nil_prefix, rfl⟩
      · rcases Nat.lt_or_ge i c.utf8Size with hlt | hge
        · rw [isBoundary_within hpos hlt] at h
          cases h
        · obtain ⟨k, rfl⟩ := Nat.exists_eq_add_of_le hge
          have hlen : (encodeChar c).length = c.utf8Size := String.length_utf8EncodeChar c
          rw [encode_cons, ← hlen] at h
          obtain ⟨front, hfront, rfl⟩ := ih (isBoundary_of_append h)
          exact ⟨c :: front, (List.prefix_cons_inj c).mpr hfront, rfl⟩
  · rintro ⟨front, hfront, rfl⟩
    exact isBoundary_of_isPrefix hfront

theorem lastBoundary?_eq {bs : List UInt8} {i stop : Nat} (hle : stop ≤ i)
    (hstop : isBoundary bs stop = true)
    (hlast : ∀ j, isBoundary bs j = true → j ≤ i → j ≤ stop) :
    lastBoundary? bs i = some stop := by
  induction i with
  | zero =>
    obtain rfl := Nat.le_zero.mp hle
    rw [lastBoundary?, if_pos hstop]
  | succ i ih =>
    rw [lastBoundary?]
    by_cases h : isBoundary bs (i + 1) = true
    · have hlater := hlast (i + 1) h (Nat.le_refl _)
      rw [if_pos h, Nat.le_antisymm hle hlater]
    · rw [if_neg h]
      have hne : stop ≠ i + 1 := by
        rintro rfl
        exact h hstop
      apply ih (by omega)
      intro j hj hji
      exact hlast j hj (Nat.le_succ_of_le hji)

end Utf8
end Text
end RoutingDump
