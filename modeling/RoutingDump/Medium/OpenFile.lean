import RoutingDump.FileTree
import RoutingDump.Medium.Basic

/-!
# Open files

A file is read in blocks and handed on byte by byte. A block stays as it was read, whatever is
written to the file afterwards. A directory can be opened but not read.
-/

namespace RoutingDump

/-- An open file in the tree it belongs to, by the place of its node. A directory has no such
place. `fetched` is the rest of the last block. -/
structure OpenFile where
  tree : FileTree
  place : Option Nat
  offset : Nat := 0
  fetched : List UInt8 := []

namespace OpenFile

/-- The bytes of one block. -/
def blockSize : Nat := 8192

/-- The bytes of the file that no block has fetched yet. -/
def unfetched (f : OpenFile) : List UInt8 :=
  match f.place with
  | none => []
  | some n => (f.tree.content n).drop f.offset

/-- The bytes still to be read. -/
def unread (f : OpenFile) : List UInt8 := f.fetched ++ f.unfetched

/-- The block that a read fetches. Only at the end of the file it holds no bytes. -/
def block (f : OpenFile) : List UInt8 :=
  match f.place with
  | none => []
  | some n => f.tree.block n f.offset blockSize

theorem block_eq (f : OpenFile) : f.block = f.unfetched.take blockSize := by
  unfold block unfetched
  cases f.place with
  | none => rfl
  | some n => exact f.tree.block_eq n f.offset blockSize

/-- What a file says when its bytes are used up. -/
def ending (f : OpenFile) : Option IoError :=
  match f.place with
  | none => some .isDirectory
  | some _ => none

def next (f : OpenFile) : Next OpenFile :=
  match f.fetched with
  | b :: bs => .item (.byte b) { f with fetched := bs }
  | [] =>
    match f.block with
    | [] => .ended f.ending
    | b :: bs =>
      .item (.byte b) { f with fetched := bs, offset := f.offset + (bs.length + 1) }

theorem unfetched_advance (f : OpenFile) (k : Nat) (bs : List UInt8) :
    ({ f with fetched := bs, offset := f.offset + k } : OpenFile).unfetched
      = f.unfetched.drop k := by
  unfold unfetched
  cases f.place <;> simp

theorem next_of_nil (f : OpenFile) (h : f.unread = []) : f.next = .ended f.ending := by
  obtain ⟨h1, h2⟩ := List.append_eq_nil_iff.mp h
  simp [next, block_eq, h1, h2]

theorem next_of_cons (f : OpenFile) (b : UInt8) (bs : List UInt8) (h : f.unread = b :: bs) :
    ∃ rest, f.next = .item (.byte b) rest ∧ rest.unread = bs ∧ rest.ending = f.ending := by
  unfold unread at h
  cases hf : f.fetched with
  | cons c cs =>
    rw [hf] at h
    cases h
    exact ⟨{ f with fetched := cs }, by simp [next, hf], rfl, rfl⟩
  | nil =>
    rw [hf, List.nil_append] at h
    have htake : f.unfetched.take blockSize = b :: bs.take (blockSize - 1) := by
      rw [h, show blockSize = (blockSize - 1) + 1 from rfl, List.take_succ_cons]
      rfl
    refine ⟨{ f with
      fetched := bs.take (blockSize - 1)
      offset := f.offset + ((bs.take (blockSize - 1)).length + 1) }, ?_, ?_, rfl⟩
    · simp [next, hf, block_eq, htake]
    · unfold unread
      rw [unfetched_advance, h]
      simp only [List.drop_succ_cons]
      rw [List.length_take]
      rcases Nat.le_total (blockSize - 1) bs.length with hle | hle
      · rw [Nat.min_eq_left hle, List.take_append_drop]
      · rw [Nat.min_eq_right hle, List.drop_length, List.append_nil, List.take_of_length_le hle]

instance : Medium OpenFile where
  pending f := Item.ofBytes f.unread
  ending := ending
  next := next
  next_of_nil := by
    intro f h
    exact next_of_nil f (List.map_eq_nil_iff.mp h)
  next_of_cons := by
    intro f i is h
    obtain ⟨b, bs, hu, rfl, rfl⟩ := List.map_eq_cons_iff.mp h
    obtain ⟨rest, h1, h2, h3⟩ := next_of_cons f b bs hu
    exact ⟨rest, h1, by rw [h2]; rfl, h3⟩

end OpenFile

/-- Opens the file at a path for reading. -/
def FileTree.openFile (t : FileTree) (path : String) : Except IoError OpenFile :=
  match t.resolveString path with
  | .error e => .error e
  | .ok place => .ok { tree := t, place := t.fileAt? place }

end RoutingDump
