import RoutingDump.Medium.Basic
import RoutingDump.Text.Utf8

/-!
# Reading lines of text

A line feed is one byte, and this byte is part of no other character. A read of a line therefore
never ends inside a character: from a medium that holds text it takes the text up to the first
line feed, or all that is left.
-/

namespace RoutingDump

namespace Text
namespace Utf8

theorem encode_append (cs ds : List Char) : encode (cs ++ ds) = encode cs ++ encode ds :=
  List.flatMap_append

theorem encode_lineFeed (cs : List Char) : encode ('\n' :: cs) = Medium.lineFeed :: encode cs := rfl

/-- Every byte of a longer character is marked as part of one. -/
theorem lineFeed_not_mem_encodeChar {c : Char} (h : c ≠ '\n') :
    Medium.lineFeed ∉ encodeChar c := by
  have hc := toNat_lt c
  have hval : c.val.toNat = c.toNat := rfl
  intro hmem
  have hbyte {n : Nat} (hn : n < 256) (heq : Medium.lineFeed = UInt8.ofNat n) : n = 10 := by
    rw [← toNat_ofNat_of_lt hn, ← heq]
    rfl
  simp only [encodeChar, String.utf8EncodeChar, hval] at hmem
  split at hmem
  · have hcode : c.toNat = 10 := hbyte (by omega) (by simpa using hmem)
    exact h (Char.toNat_inj.mp hcode)
  · split at hmem
    · simp only [List.mem_cons, List.not_mem_nil, or_false] at hmem
      rcases hmem with hmem | hmem <;> have := hbyte (by omega) hmem <;> omega
    · split at hmem
      · simp only [List.mem_cons, List.not_mem_nil, or_false] at hmem
        rcases hmem with hmem | hmem | hmem <;> have := hbyte (by omega) hmem <;> omega
      · simp only [List.mem_cons, List.not_mem_nil, or_false] at hmem
        rcases hmem with hmem | hmem | hmem | hmem <;> have := hbyte (by omega) hmem <;> omega

theorem lineFeed_not_mem_encode {cs : List Char} (h : '\n' ∉ cs) :
    Medium.lineFeed ∉ encode cs := by
  intro hmem
  obtain ⟨c, hc, hbyte⟩ := List.mem_flatMap.mp hmem
  refine lineFeed_not_mem_encodeChar ?_ hbyte
  rintro rfl
  exact h hc

end Utf8
end Text

namespace Medium

variable {S : Type} [Medium S]

theorem readOn_of_ended {taken : List UInt8} {s : S} {fault : Option IoError}
    (h : next s = .ended fault) :
    readOn taken s = { bytes := taken.reverse, fault := fault, rest := s } := by
  rw [readOn]
  split <;> rename_i hnext <;> rw [h] at hnext <;> cases hnext
  rfl

theorem readOn_of_lineFeed {taken : List UInt8} {s rest : S}
    (h : next s = .item (.byte lineFeed) rest) :
    readOn taken s =
      { bytes := taken.reverse ++ [lineFeed], fault := none, rest := rest } := by
  rw [readOn]
  split <;> rename_i hnext <;> rw [h] at hnext <;> cases hnext
  rw [if_pos rfl, List.reverse_cons]

theorem readOn_of_byte {taken : List UInt8} {s rest : S} {b : UInt8} (hb : b ≠ lineFeed)
    (h : next s = .item (.byte b) rest) : readOn taken s = readOn (b :: taken) rest := by
  rw [readOn]
  split <;> rename_i hnext <;> rw [h] at hnext <;> cases hnext
  rw [if_neg hb]

/-- What every single read preserves. -/
def Preserved (I : S → Prop) : Prop :=
  ∀ s i rest, I s → next s = .item i rest → I rest

theorem readLine_preserves {I : S → Prop} (hI : Preserved I) {s : S} (h : I s) :
    I (readLine s).rest := by
  suffices hon : ∀ taken, I (readOn taken s).rest from hon []
  intro taken
  fun_induction readOn taken s with
  | case1 => exact h
  | case2 taken s rest hnext => exact hI _ _ _ h hnext
  | case3 taken s b rest hnext hb hlt ih => exact ih (hI _ _ _ h hnext)
  | case4 taken s rest hnext => exact hI _ _ _ h hnext
  | case5 taken s e rest hnext he hlt ih => exact ih (hI _ _ _ h hnext)
  | case6 taken s e rest hnext => exact hI _ _ _ h hnext

/-- Bytes without a line feed are taken as they come, whatever stands behind them. -/
theorem readOn_ofBytes {l : List UInt8} (hl : lineFeed ∉ l) {tail : List Item}
    (taken : List UInt8) {s : S} (h : pending s = Item.ofBytes l ++ tail) :
    ∃ s', pending s' = tail ∧ ending s' = ending s ∧
      readOn taken s = readOn (l.reverse ++ taken) s' := by
  induction l generalizing taken s with
  | nil => exact ⟨s, h, rfl, rfl⟩
  | cons b l ih =>
    have hb : b ≠ lineFeed := fun heq => hl (heq ▸ List.mem_cons_self)
    obtain ⟨rest, hnext, hpending, hending⟩ := next_of_cons s _ _ h
    obtain ⟨s', hpending', hending', hread⟩ :=
      ih (fun hmem => hl (List.mem_cons_of_mem b hmem)) (b :: taken) hpending
    refine ⟨s', hpending', hending'.trans hending, ?_⟩
    rw [readOn_of_byte hb hnext, hread, List.reverse_cons, List.append_assoc]
    rfl

theorem readLine_bytes_lineFeed {l : List UInt8} (hl : lineFeed ∉ l) {tail : List Item} {s : S}
    (h : pending s = Item.ofBytes l ++ .byte lineFeed :: tail) :
    ∃ rest, readLine s = { bytes := l ++ [lineFeed], fault := none, rest := rest } ∧
      pending rest = tail ∧ ending rest = ending s := by
  obtain ⟨s', hpending', hending', hread⟩ := readOn_ofBytes hl [] h
  obtain ⟨rest, hnext, hpending, hending⟩ := next_of_cons s' _ _ hpending'
  refine ⟨rest, ?_, hpending, hending.trans hending'⟩
  rw [readLine, hread, readOn_of_lineFeed hnext, List.append_nil, List.reverse_reverse]

theorem readLine_bytes_end {l : List UInt8} (hl : lineFeed ∉ l) {s : S}
    (h : pending s = Item.ofBytes l) :
    ∃ rest, readLine s = { bytes := l, fault := ending s, rest := rest } ∧
      pending rest = [] ∧ ending rest = ending s := by
  rw [← List.append_nil (Item.ofBytes l)] at h
  obtain ⟨s', hpending', hending', hread⟩ := readOn_ofBytes hl [] h
  refine ⟨s', ?_, hpending', hending'⟩
  rw [readLine, hread, readOn_of_ended (next_of_nil s' hpending'), hending', List.append_nil,
    List.reverse_reverse]

/-- A read takes no line feed but one that ends it. -/
theorem readLine_oneLine (s : S) :
    lineFeed ∉ (readLine s).bytes ∨
      (readLine s).fault = none ∧ ∃ l, lineFeed ∉ l ∧ (readLine s).bytes = l ++ [lineFeed] := by
  suffices hon : ∀ taken, lineFeed ∉ taken → lineFeed ∉ (readOn taken s).bytes ∨
      (readOn taken s).fault = none ∧ ∃ l, lineFeed ∉ l ∧ (readOn taken s).bytes = l ++ [lineFeed]
    from hon [] List.not_mem_nil
  intro taken htaken
  fun_induction readOn taken s with
  | case1 | case4 | case6 => exact .inl (mt List.mem_reverse.mp htaken)
  | case2 taken s rest hnext =>
    exact .inr ⟨rfl, taken.reverse, mt List.mem_reverse.mp htaken, List.reverse_cons⟩
  | case3 taken s b rest hnext hb hlt ih =>
    refine ih fun hmem => ?_
    rcases List.mem_cons.mp hmem with heq | hmem
    · exact hb heq.symm
    · exact htaken hmem
  | case5 taken s e rest hnext he hlt ih => exact ih htaken

open Text (Utf8.encode)

/-- A medium that holds the given text and has no fault after it. -/
structure Holds (s : S) (text : List Char) : Prop where
  pending_eq : pending s = Item.ofBytes (Utf8.encode text)
  ending_eq : ending s = none

/-- A read takes the text up to the first line feed. -/
theorem readLine_lineFeed {l r : List Char} (hl : '\n' ∉ l) {s : S}
    (h : Holds s (l ++ '\n' :: r)) :
    ∃ rest, readLine s = { bytes := Utf8.encode (l ++ ['\n']), fault := none, rest := rest } ∧
      Holds rest r := by
  have hpending := h.pending_eq
  rw [Text.Utf8.encode_append, Text.Utf8.encode_lineFeed, Item.ofBytes, List.map_append] at hpending
  obtain ⟨rest, hread, hrest, hending⟩ :=
    readLine_bytes_lineFeed (Text.Utf8.lineFeed_not_mem_encode hl) hpending
  refine ⟨rest, ?_, hrest, hending.trans h.ending_eq⟩
  rw [hread, Text.Utf8.encode_append]
  rfl

theorem readLine_end {l : List Char} (hl : '\n' ∉ l) {s : S} (h : Holds s l) :
    ∃ rest, readLine s = { bytes := Utf8.encode l, fault := none, rest := rest } ∧
      Holds rest [] := by
  obtain ⟨rest, hread, hrest, hending⟩ :=
    readLine_bytes_end (Text.Utf8.lineFeed_not_mem_encode hl) h.pending_eq
  refine ⟨rest, ?_, hrest, hending.trans h.ending_eq⟩
  rw [hread, h.ending_eq]

end Medium
end RoutingDump
