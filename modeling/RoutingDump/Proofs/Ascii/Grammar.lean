import RoutingDump.Proofs.Ascii.Written

/-!
# The grammar of a line

A line is said here without regard to how it is read: a time, a bar and a body, where the time is a
numeral of seconds, or two numerals with a dot between them. No numeral holds a dot or a bar, so the
first dot of a time and the first bar of a line stand where the grammar has them.
-/

namespace RoutingDump

namespace Text

theorem word32?_eq_some_iff {cs : List Char} {w : UInt32} :
    word32? cs = some w ↔ Numeral cs w.toNat := by
  constructor
  · intro h
    rw [word32?, Option.map_eq_some_iff] at h
    obtain ⟨n, hn, rfl⟩ := h
    obtain ⟨hnumeral, hle⟩ := unsigned?_eq_some_iff.mp hn
    rw [UInt32.toNat_ofNat_of_lt' (Nat.lt_succ_of_le hle)]
    exact hnumeral
  · intro h
    rw [word32?_of_numeral h (Nat.le_of_lt_succ w.toNat_lt), UInt32.ofNat_toNat]

theorem Numeral.mem {cs : List Char} {n : Nat} (h : Numeral cs n) {c : Char} (hc : c ∈ cs) :
    c = '+' ∨ c.isDigit = true := by
  cases h with
  | plain hsome hdigits => exact .inr (hdigits c hc)
  | signed hsome hdigits =>
    rcases List.mem_cons.mp hc with hplus | hdigit
    · exact .inl hplus
    · exact .inr (hdigits c hdigit)

theorem Numeral.dot_not_mem {cs : List Char} {n : Nat} (h : Numeral cs n) : '.' ∉ cs := by
  intro hdot
  rcases h.mem hdot with hplus | hdigit
  · cases hplus
  · cases hdigit

end Text

namespace Ascii

open Text (Numeral)

/-- The text is a time: seconds, or seconds and microseconds with a dot between them. -/
inductive TimeText : (cs : List Char) → (sec usec : Nat) → Prop
  | whole {s : List Char} {sec : Nat} (hsec : Numeral s sec) (hle : sec ≤ 4294967295) :
    TimeText s sec 0
  | parted {s u : List Char} {sec usec : Nat} (hsec : Numeral s sec) (hle : sec ≤ 4294967295)
    (husec : Numeral u usec) (hlt : usec ≤ 999999) : TimeText (s ++ '.' :: u) sec usec

/-- The text is the line: its time, a bar and its body. -/
def LineText (cs : List Char) (l : Line) : Prop :=
  ∃ time, '|' ∉ time ∧ cs = time ++ '|' :: l.body ∧ TimeText time l.sec.toNat l.usec.toNat

theorem splitFirst_eq_some_iff {mark : Char} {cs front back : List Char} :
    splitFirst mark cs = some (front, back) ↔ mark ∉ front ∧ cs = front ++ mark :: back := by
  constructor
  · intro h
    refine ⟨?_, eq_append_of_splitFirst h⟩
    induction cs generalizing front with
    | nil => cases h
    | cons c cs ih =>
      rw [splitFirst] at h
      split at h
      · cases h
        exact List.not_mem_nil
      · rename_i hc
        split at h
        · cases h
        · rename_i front' back' hsplit
          cases h
          exact List.not_mem_cons_of_ne_of_not_mem (Ne.symm hc) (ih hsplit)
  · rintro ⟨hfront, rfl⟩
    exact splitFirst_append hfront back

theorem splitFirst_of_not_mem {mark : Char} {cs : List Char} (h : mark ∉ cs) :
    splitFirst mark cs = none := by
  cases hsplit : splitFirst mark cs with
  | none => rfl
  | some halves =>
    refine absurd ?_ h
    rw [eq_append_of_splitFirst hsplit]
    exact List.mem_append_right _ List.mem_cons_self

theorem parseTime?_eq_some_iff {cs : List Char} {sec usec : UInt32} :
    parseTime? cs = some (sec, usec) ↔ TimeText cs sec.toNat usec.toNat := by
  constructor
  · intro h
    unfold parseTime? at h
    split at h
    · split at h
      · cases h
      · rename_i hsec
        cases h
        exact .whole (Text.word32?_eq_some_iff.mp hsec) (Nat.le_of_lt_succ sec.toNat_lt)
    · rename_i front back hsplit
      split at h
      · rename_i hsec husec
        split at h
        · rename_i hlt
          cases h
          rw [(splitFirst_eq_some_iff.mp hsplit).2]
          exact .parted (Text.word32?_eq_some_iff.mp hsec) (Nat.le_of_lt_succ sec.toNat_lt)
            (Text.word32?_eq_some_iff.mp husec) (Nat.le_of_lt_succ hlt)
        · cases h
      · cases h
  · generalize hs : sec.toNat = s
    generalize hu : usec.toNat = u
    intro h
    cases h with
    | whole hsec hle =>
      have hzero : usec = 0 := UInt32.toNat_inj.mp hu
      rw [← hs] at hsec
      rw [parseTime?, splitFirst_of_not_mem hsec.dot_not_mem]
      dsimp only
      rw [Text.word32?_eq_some_iff.mpr hsec, hzero]
    | parted hsec hle husec hlt =>
      rw [← hs] at hsec
      rw [← hu] at husec hlt
      rw [parseTime?, splitFirst_append hsec.dot_not_mem]
      dsimp only
      rw [Text.word32?_eq_some_iff.mpr hsec, Text.word32?_eq_some_iff.mpr husec]
      exact if_pos (Nat.lt_succ_of_le hlt)

theorem parseLine?_eq_some_iff {cs : List Char} {l : Line} :
    parseLine? cs = some l ↔ LineText cs l := by
  constructor
  · intro h
    unfold parseLine? at h
    split at h
    · cases h
    · rename_i time body hsplit
      obtain ⟨hbar, hcs⟩ := splitFirst_eq_some_iff.mp hsplit
      split at h
      · cases h
      · rename_i sec usec htime
        cases h
        exact ⟨time, hbar, hcs, parseTime?_eq_some_iff.mp htime⟩
  · rintro ⟨time, hbar, rfl, htime⟩
    rw [parseLine?, splitFirst_append hbar]
    dsimp only
    rw [parseTime?_eq_some_iff.mpr htime]

/-- A text reads as the line that the grammar makes of it, and as nothing if there is none. -/
theorem line_grammar (cs : List Char) :
    (∀ l, parseLine? cs = some l ↔ LineText cs l) ∧
      (parseLine? cs = none ↔ ∀ l, ¬ LineText cs l) := by
  refine ⟨fun l => parseLine?_eq_some_iff, ?_⟩
  rw [Option.eq_none_iff_forall_ne_some]
  exact forall_congr' fun l => not_congr parseLine?_eq_some_iff

/-- Bars and dots behind the first bar belong to the body, and zeros in front count for nothing. -/
example : LineText "+007.000250|a|b.c".toList ⟨7, 250, "a|b.c".toList⟩ :=
  parseLine?_eq_some_iff.mp (by decide)

end Ascii
end RoutingDump
