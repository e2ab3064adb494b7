import Mathlib.Data.Finset.Sort
import Mathlib.Data.String.Basic
import RoutingDump.StringSet

/-!
# The elements of a set of strings

A set is kept as a list without repetitions. Its elements are a finite set, which no longer shows in
what order they came in, and every operation is one on finite sets.
-/

namespace RoutingDump
namespace StringSet

def elements (s : StringSet) : Finset String := ⟨s.toList, s.nodup⟩

@[simp] theorem mem_elements {s : StringSet} {x : String} : x ∈ s.elements ↔ x ∈ s := Iff.rfl

@[simp] theorem elements_empty : (∅ : StringSet).elements = ∅ := rfl

theorem size_eq_card (s : StringSet) : s.size = s.elements.card := rfl

theorem isEmpty_iff_size {s : StringSet} : s.isEmpty = true ↔ s.size = 0 := by
  simp [isEmpty, size]

theorem isEmpty_iff {s : StringSet} : s.isEmpty = true ↔ ∀ x, x ∉ s := by
  rw [isEmpty, List.isEmpty_iff, List.eq_nil_iff_forall_not_mem]
  exact Iff.rfl

@[simp] theorem elements_insert (s : StringSet) (x : String) :
    (s.insert x).2.elements = Insert.insert x s.elements := by
  ext y
  simp [mem_insert]

@[simp] theorem elements_erase (s : StringSet) (x : String) :
    (s.erase x).2.elements = s.elements.erase x := by
  ext y
  simp [mem_erase]

@[simp] theorem elements_insertAll (s : StringSet) (xs : List String) :
    (s.insertAll xs).elements = s.elements ∪ xs.toFinset := by
  ext y
  simp [mem_insertAll]

@[simp] theorem elements_ofList (xs : List String) : (ofList xs).elements = xs.toFinset := by
  show (insertAll ∅ xs).elements = _
  simp

theorem mem_union {s t : StringSet} {x : String} : x ∈ s.union t ↔ x ∈ s ∨ x ∈ t :=
  mem_insertAll

@[simp] theorem elements_union (s t : StringSet) :
    (s.union t).elements = s.elements ∪ t.elements := by
  ext y
  simp [mem_union]

/-- An insertion reports whether it makes a difference, and so does a removal. -/
theorem insert_fst_iff {s : StringSet} {x : String} :
    (s.insert x).1 = true ↔ Insert.insert x s.elements ≠ s.elements := by
  rw [insert_fst, Ne, Finset.insert_eq_self, mem_elements]

theorem erase_fst_iff {s : StringSet} {x : String} :
    (s.erase x).1 = true ↔ s.elements.erase x ≠ s.elements := by
  show s.contains x = true ↔ _
  rw [contains_iff, Ne, Finset.erase_eq_self, mem_elements, not_not]

/-- Equal size and one inclusion are enough for equality, since neither list repeats a string. -/
theorem beq_iff {s t : StringSet} : (s == t) = true ↔ s.elements = t.elements := by
  show s.beq t = true ↔ _
  rw [beq, Bool.and_eq_true, beq_iff_eq, List.all_eq_true]
  constructor
  · intro h
    obtain ⟨hsize, hall⟩ := h
    have hsubset : s.elements ⊆ t.elements := by
      intro x hx
      exact contains_iff.mp (hall x hx)
    apply Finset.eq_of_subset_of_card_le hsubset
    rw [← size_eq_card, ← size_eq_card, hsize]
  · intro h
    refine ⟨by rw [size_eq_card, size_eq_card, h], ?_⟩
    intro x hx
    apply contains_iff.mpr
    rw [← mem_elements, ← h]
    exact hx

theorem beq_iff_mem {s t : StringSet} : (s == t) = true ↔ ∀ x, x ∈ s ↔ x ∈ t := by
  rw [beq_iff, Finset.ext_iff]
  exact Iff.rfl

theorem sorted_eq_sort (s : StringSet) : s.sorted = s.elements.sort := rfl

theorem insertAll_of_subset {s : StringSet} {xs : List String} (h : ∀ x ∈ xs, x ∈ s) :
    s.insertAll xs = s := by
  induction xs with
  | nil => rfl
  | cons x xs ih =>
    have hx : (s.insert x).2 = s := by
      unfold insert
      rw [dif_pos (mem_def.mp (h x List.mem_cons_self))]
    show (s.insert x).2.insertAll xs = s
    rw [hx]
    exact ih fun y hy => h y (List.mem_cons_of_mem x hy)

theorem union_idem (s t : StringSet) : (s.union t).union t = s.union t := by
  apply insertAll_of_subset
  intro x hx
  exact mem_union.mpr (.inr hx)

theorem union_comm (s t : StringSet) : (s.union t == t.union s) = true := by
  rw [beq_iff, elements_union, elements_union, Finset.union_comm]

end StringSet
end RoutingDump
