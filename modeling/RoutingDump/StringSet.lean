/-!
# Sets of strings

Filters hold the projects and collectors a reader asks for. A set keeps each string once and
equality forgets the order in which strings came in.
-/

namespace RoutingDump

/-- A finite set of strings. The list is free of repetitions, so its length is the size. -/
structure StringSet where
  toList : List String
  nodup : toList.Nodup

namespace StringSet

def empty : StringSet := ⟨[], List.nodup_nil⟩

instance : EmptyCollection StringSet := ⟨empty⟩

instance : Inhabited StringSet := ⟨empty⟩

def contains (s : StringSet) (x : String) : Bool := s.toList.contains x

instance : Membership String StringSet := ⟨fun s x => x ∈ s.toList⟩

theorem mem_def {s : StringSet} {x : String} : x ∈ s ↔ x ∈ s.toList := Iff.rfl

theorem contains_iff {s : StringSet} {x : String} : s.contains x = true ↔ x ∈ s := by
  simp [contains, mem_def]

def size (s : StringSet) : Nat := s.toList.length

def isEmpty (s : StringSet) : Bool := s.toList.isEmpty

/-- The set with `x`, and whether `x` is new. -/
def insert (s : StringSet) (x : String) : Bool × StringSet :=
  if h : x ∈ s.toList then (false, s)
  else (true, ⟨x :: s.toList, List.nodup_cons.mpr ⟨h, s.nodup⟩⟩)

/-- The set without `x`, and whether `x` was there. -/
def erase (s : StringSet) (x : String) : Bool × StringSet :=
  (s.contains x, ⟨s.toList.filter (· != x), s.nodup.filter _⟩)

/-- All strings of a list, added one after the other. -/
def insertAll (s : StringSet) (xs : List String) : StringSet :=
  xs.foldl (fun s x => (s.insert x).2) s

def ofList (xs : List String) : StringSet := empty.insertAll xs

/-- `s` with every string of `t`. -/
def union (s t : StringSet) : StringSet := s.insertAll t.toList

/-- Sets are equal when they have as many strings and each string of one is in the other. -/
def beq (s t : StringSet) : Bool := s.size == t.size && s.toList.all t.contains

instance : BEq StringSet := ⟨beq⟩

/-- The strings in ascending order of their characters. -/
def sorted (s : StringSet) : List String := s.toList.mergeSort (fun a b => decide (a ≤ b))

theorem mem_insert {s : StringSet} {x y : String} : y ∈ (s.insert x).2 ↔ y = x ∨ y ∈ s := by
  unfold insert
  split
  · rename_i h
    constructor
    · exact Or.inr
    · rintro (rfl | h')
      · exact h
      · exact h'
  · simp [mem_def]

theorem insert_fst {s : StringSet} {x : String} : (s.insert x).1 = true ↔ x ∉ s := by
  unfold insert
  split <;> rename_i h
  · simpa [mem_def] using h
  · simpa [mem_def] using h

theorem mem_erase {s : StringSet} {x y : String} : y ∈ (s.erase x).2 ↔ y ≠ x ∧ y ∈ s := by
  simp [erase, mem_def, and_comm]

theorem mem_insertAll {s : StringSet} {xs : List String} {y : String} :
    y ∈ s.insertAll xs ↔ y ∈ s ∨ y ∈ xs := by
  induction xs generalizing s with
  | nil => simp [insertAll]
  | cons x xs ih =>
    have h : s.insertAll (x :: xs) = (s.insert x).2.insertAll xs := rfl
    rw [h, ih, mem_insert, List.mem_cons]
    constructor
    · rintro ((h | h) | h)
      · exact .inr (.inl h)
      · exact .inl h
      · exact .inr (.inr h)
    · rintro (h | h | h)
      · exact .inl (.inr h)
      · exact .inl (.inl h)
      · exact .inr h

end StringSet
end RoutingDump
