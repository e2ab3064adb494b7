import Mathlib.Data.List.Basic
import RoutingDump.Text.Utf8

/-!
# Cuts through encoded text

Where the bytes of a text are cut in two, the first part is text again only if the cut falls
between two characters. Then both parts are the bytes of what stands there.
-/

namespace RoutingDump
namespace Text
namespace Utf8

theorem encode_cons (c : Char) (cs : List Char) : encode (c :: cs) = encodeChar c ++ encode cs :=
  List.flatMap_cons

/-- A character that was begun must be brought to its end. -/
theorem length_decodeFrom {decoded cs : List Char} {p : Progress} {bs : List UInt8}
    (h : decodeFrom decoded p bs = some cs) :
    decoded.length + (if p = .between then 0 else 1) ≤ cs.length := by
  induction bs generalizing decoded p with
  | nil =>
    cases p with
    | between =>
      cases h
      simp
    | within missing code least => cases h
  | cons b bs ih =>
    cases p with
    | between =>
      simp only [decodeFrom] at h
      split at h
      · cases h
      · split at h
        · cases h
        · have hlen := ih h
          simp at hlen ⊢
          omega
      · have hlen := ih h
        simp at hlen ⊢
        omega
    | within missing code least =>
      simp only [decodeFrom] at h
      split at h
      · cases h
      · split at h
        · split at h
          · cases h
          · have hlen := ih h
            simp at hlen ⊢
            omega
        · have hlen := ih h
          simp at hlen ⊢
          omega

theorem eq_nil_of_decode?_eq_nil {bs : List UInt8} (h : decode? bs = some []) : bs = [] := by
  cases bs with
  | nil => rfl
  | cons b bs =>
    simp only [decode?, decodeFrom] at h
    split at h
    · cases h
    · split at h
      · cases h
      · have hlen := length_decodeFrom h
        simp at hlen
    · have hlen := length_decodeFrom h
      simp at hlen

theorem decodeFrom_append {decoded cs : List Char} {p : Progress} {bs : List UInt8}
    (h : decodeFrom decoded p bs = some cs) (ds : List UInt8) :
    decodeFrom decoded p (bs ++ ds) = decodeFrom cs.reverse .between ds := by
  induction bs generalizing decoded p with
  | nil =>
    cases p with
    | between =>
      cases h
      rw [List.reverse_reverse, List.nil_append]
    | within missing code least => cases h
  | cons b bs ih =>
    cases p with
    | between =>
      rw [List.cons_append]
      simp only [decodeFrom] at h ⊢
      split at h
      · cases h
      · split at h
        · cases h
        · exact ih h
      · exact ih h
    | within missing code least =>
      rw [List.cons_append]
      simp only [decodeFrom] at h ⊢
      split at h
      · cases h
      · split at h
        · split at h
          · cases h
          · exact ih h
        · exact ih h

theorem decode?_append {bs : List UInt8} {cs : List Char} (h : decode? bs = some cs)
    (ds : List UInt8) : decode? (bs ++ ds) = (decode? ds).map (cs ++ ·) := by
  rw [decode?, decodeFrom_append h, decodeFrom_eq_map, List.reverse_reverse]
  rfl

/-- The induction is on the whole text. A cut inside its first character would leave two parts that
are both more than nothing, and make two characters of one. -/
theorem eq_encode_of_decode? {l r : List UInt8} {text cs : List Char} (h : l ++ r = encode text)
    (hl : decode? l = some cs) : l = encode cs ∧ ∃ es, text = cs ++ es ∧ r = encode es := by
  induction text generalizing l cs with
  | nil =>
    obtain ⟨rfl, rfl⟩ := List.append_eq_nil_iff.mp h
    cases hl
    exact ⟨rfl, [], rfl, rfl⟩
  | cons c text ih =>
    rw [encode_cons] at h
    have hchar : decode? (encodeChar c) = some [c] := by
      have hone := decode?_encode [c]
      rwa [encode_cons, encode, List.flatMap_nil, List.append_nil] at hone
    rcases List.append_eq_append_iff.mp h with ⟨m, hm, hr⟩ | ⟨m, hm, hr⟩
    · have hcut := decode?_append hl m
      rw [← hm, hchar] at hcut
      obtain ⟨ds, hds, hone⟩ := Option.map_eq_some_iff.mp hcut.symm
      cases cs with
      | nil =>
        obtain rfl := eq_nil_of_decode?_eq_nil hl
        refine ⟨rfl, c :: text, rfl, ?_⟩
        rw [encode_cons]
        exact h
      | cons c' cs =>
        rw [List.cons_append, List.cons.injEq, List.append_eq_nil_iff] at hone
        obtain ⟨rfl, rfl, rfl⟩ := hone
        obtain rfl := eq_nil_of_decode?_eq_nil hds
        rw [List.append_nil] at hm
        refine ⟨?_, text, rfl, hr⟩
        rw [encode_cons, encode, List.flatMap_nil, List.append_nil, hm]
    · rw [hm, decode?_append hchar] at hl
      obtain ⟨ds, hds, rfl⟩ := Option.map_eq_some_iff.mp hl
      obtain ⟨rfl, es, rfl, hes⟩ := ih hr.symm hds
      refine ⟨?_, es, rfl, hes⟩
      rw [hm, List.singleton_append, encode_cons]

theorem encode_of_append_encode {cs text : List Char} {r : List UInt8}
    (h : encode cs ++ r = encode text) : ∃ es, text = cs ++ es ∧ r = encode es :=
  (eq_encode_of_decode? h (decode?_encode cs)).2

end Utf8
end Text
end RoutingDump
