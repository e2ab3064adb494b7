import RoutingDump.FilePath

/-!
# Steps of a path

A path is cut at its slashes and nothing else is done to the pieces, so every name in it is one that
a directory can hold, and a name put behind a path is one step more.
-/

namespace RoutingDump
namespace FilePath

/-- A name that a directory can hold. -/
structure ProperName (n : String) : Prop where
  some : n.toList ≠ []
  notHere : n.toList ≠ ['.']
  notUp : n.toList ≠ ['.', '.']
  noSlash : '/' ∉ n.toList
  noNul : Char.ofNat 0 ∉ n.toList

instance : DecidablePred ProperName := fun n =>
  decidable_of_iff (n.toList ≠ [] ∧ n.toList ≠ ['.'] ∧ n.toList ≠ ['.', '.'] ∧ '/' ∉ n.toList ∧
      Char.ofNat 0 ∉ n.toList)
    ⟨fun ⟨hsome, hhere, hup, hslash, hnul⟩ => ⟨hsome, hhere, hup, hslash, hnul⟩,
      fun h => ⟨h.some, h.notHere, h.notUp, h.noSlash, h.noNul⟩⟩

/-- All names in the path are proper. -/
def Proper (p : FilePath) : Prop := ∀ n, PathStep.name n ∈ p.steps → ProperName n

theorem step?_of_proper {n : String} (h : ProperName n) : step? n.toList = some (.name n) := by
  unfold step?
  split
  · rename_i heq
    exact absurd heq h.some
  · rename_i heq
    exact absurd heq h.notHere
  · rename_i heq
    exact absurd heq h.notUp
  · rw [String.ofList_toList]

theorem eq_of_step? {cs : List Char} {n : String} (h : step? cs = some (.name n)) :
    cs = n.toList ∧ cs ≠ [] ∧ cs ≠ ['.'] ∧ cs ≠ ['.', '.'] := by
  unfold step? at h
  split at h
  · cases h
  · cases h
  · cases h
  · rename_i hsome hhere hup
    cases h
    exact ⟨String.toList_ofList.symm, hsome, hhere, hup⟩

/-! ### Pieces -/

theorem pieces_ne_nil (mark : Char) (cs : List Char) : pieces mark cs ≠ [] := by
  cases cs with
  | nil => exact nofun
  | cons c cs =>
    rw [pieces]
    split
    · exact nofun
    · split <;> exact nofun

theorem pieces_of_not_mem {mark : Char} {cs : List Char} (h : mark ∉ cs) :
    pieces mark cs = [cs] := by
  induction cs with
  | nil => rfl
  | cons c cs ih =>
    have hc : c ≠ mark := fun heq => h (heq ▸ List.mem_cons_self)
    rw [pieces, if_neg hc, ih fun hmem => h (List.mem_cons_of_mem c hmem)]

theorem pieces_append (mark : Char) (cs ds : List Char) :
    pieces mark (cs ++ mark :: ds) = pieces mark cs ++ pieces mark ds := by
  induction cs with
  | nil => exact if_pos rfl
  | cons c cs ih =>
    rw [List.cons_append, pieces, pieces, ih]
    by_cases hc : c = mark
    · rw [if_pos hc, if_pos hc, List.cons_append]
    · rw [if_neg hc, if_neg hc]
      cases hpieces : pieces mark cs with
      | nil => exact absurd hpieces (pieces_ne_nil mark cs)
      | cons p ps => rfl

theorem mem_of_mem_pieces {mark c : Char} {cs p : List Char} (hp : p ∈ pieces mark cs)
    (hc : c ∈ p) : c ∈ cs ∧ c ≠ mark := by
  induction cs generalizing p with
  | nil =>
    rw [List.mem_singleton.mp hp] at hc
    cases hc
  | cons d cs ih =>
    rw [pieces] at hp
    split at hp
    · rcases List.mem_cons.mp hp with rfl | hp
      · cases hc
      · obtain ⟨hmem, hne⟩ := ih hp hc
        exact ⟨List.mem_cons_of_mem d hmem, hne⟩
    · rename_i hd
      split at hp
      · rename_i hnil
        exact absurd hnil (pieces_ne_nil mark cs)
      · rename_i q ps hpieces
        rcases List.mem_cons.mp hp with rfl | hp
        · rcases List.mem_cons.mp hc with rfl | hc
          · exact ⟨List.mem_cons_self, hd⟩
          · obtain ⟨hmem, hne⟩ := ih (hpieces ▸ List.mem_cons_self) hc
            exact ⟨List.mem_cons_of_mem d hmem, hne⟩
        · obtain ⟨hmem, hne⟩ := ih (hpieces ▸ List.mem_cons_of_mem q hp) hc
          exact ⟨List.mem_cons_of_mem d hmem, hne⟩

/-! ### Paths that are read -/

/-- A text that holds something and no NUL is a path unless it is too long. -/
theorem ofString_of_text {s : String} (hnul : Char.ofNat 0 ∉ s.toList) (hsome : s.toList ≠ []) :
    ofString s =
      if maxPathBytes < s.utf8ByteSize then .error .nameTooLong
      else .ok ⟨s.toList.head? == some '/', (pieces '/' s.toList).filterMap step?,
        s.toList.getLast? == some '/'⟩ := by
  rw [ofString, if_neg (mt List.contains_iff_mem.mp hnul), if_neg (mt List.isEmpty_iff.mp hsome)]

theorem ofString_eq_ok_iff {s : String} {p : FilePath} :
    ofString s = .ok p ↔
      Char.ofNat 0 ∉ s.toList ∧ s.toList ≠ [] ∧ s.utf8ByteSize ≤ maxPathBytes ∧
        p = ⟨s.toList.head? == some '/', (pieces '/' s.toList).filterMap step?,
          s.toList.getLast? == some '/'⟩ := by
  by_cases hnul : Char.ofNat 0 ∈ s.toList
  · rw [ofString, if_pos (List.contains_iff_mem.mpr hnul)]
    exact ⟨nofun, fun h => absurd hnul h.1⟩
  by_cases hsome : s.toList = []
  · rw [ofString, if_neg (mt List.contains_iff_mem.mp hnul), if_pos (List.isEmpty_iff.mpr hsome)]
    exact ⟨nofun, fun h => absurd hsome h.2.1⟩
  rw [ofString_of_text hnul hsome]
  by_cases hlong : maxPathBytes < s.utf8ByteSize
  · rw [if_pos hlong]
    exact ⟨nofun, fun h => absurd hlong (Nat.not_lt.mpr h.2.2.1)⟩
  · rw [if_neg hlong]
    constructor
    · intro h
      exact ⟨hnul, hsome, Nat.not_lt.mp hlong, (Except.ok.inj h).symm⟩
    · rintro ⟨-, -, -, rfl⟩
      rfl

theorem proper_of_ofString {s : String} {p : FilePath} (h : ofString s = .ok p) : p.Proper := by
  obtain ⟨hnul, -, -, rfl⟩ := ofString_eq_ok_iff.mp h
  intro n hn
  obtain ⟨cs, hcs, hstep⟩ := List.mem_filterMap.mp hn
  obtain ⟨rfl, hsome, hhere, hup⟩ := eq_of_step? hstep
  exact ⟨hsome, hhere, hup, fun hslash => (mem_of_mem_pieces hcs hslash).2 rfl,
    fun hmem => hnul (mem_of_mem_pieces hcs hmem).1⟩

theorem steps_parent_subset (p : FilePath) {s : PathStep} (h : s ∈ p.parent.steps) :
    s ∈ p.steps := by
  have drop {steps : List PathStep} {s : PathStep}
      (h : s ∈ (steps.reverse.dropWhile (· == .here)).reverse) : s ∈ steps :=
    List.mem_reverse.mp ((List.dropWhile_sublist _).mem (List.mem_reverse.mp h))
  exact drop ((List.dropLast_sublist _).mem (drop h))

theorem Proper.parent {p : FilePath} (h : p.Proper) : p.parent.Proper :=
  fun n hn => h n (p.steps_parent_subset hn)

end FilePath
end RoutingDump
