import RoutingDump.Failure

/-!
# Media

A decoder reads lines from a medium: a queue of prepared items or an open file. Seen from a read,
a medium is a list of items that single reads report one after the other, and an answer that every
read gives once they are used up. Files and queues differ in how they come by the next item and
not in what a list of items means, so the laws below are all that a decoder relies on.
-/

namespace RoutingDump

/-- What one read reports: a byte, the end of the file for this once, or a fault. -/
inductive Item where
  | byte (b : UInt8)
  | endOfFile
  | fault (e : IoError)
  deriving DecidableEq, Repr

/-- The next item and the medium after it, or the lasting answer of a medium without items:
the end of the file, or a fault of every read. -/
inductive Next (S : Type) where
  | item (i : Item) (rest : S)
  | ended (fault : Option IoError)

/-- Media whose states are `S`: what single reads report is a list of items, met in order. -/
class Medium (S : Type) where
  /-- The items still to come. -/
  pending : S → List Item
  /-- The lasting answer after them. -/
  ending : S → Option IoError
  next : S → Next S
  next_of_nil : ∀ s, pending s = [] → next s = .ended (ending s)
  next_of_cons : ∀ s i is, pending s = i :: is →
    ∃ rest, next s = .item i rest ∧ pending rest = is ∧ ending rest = ending s

namespace Medium

variable {S : Type} [Medium S]

theorem pending_of_next {s rest : S} {i : Item} (h : next s = .item i rest) :
    pending s = i :: pending rest := by
  cases hp : pending s with
  | nil => rw [next_of_nil s hp] at h; cases h
  | cons j is =>
    obtain ⟨r, hr, hrest, _⟩ := next_of_cons s j is hp
    rw [hr] at h
    cases h
    rw [hrest]

theorem length_of_next {s rest : S} {i : Item} (h : next s = .item i rest) :
    (pending rest).length < (pending s).length := by
  rw [pending_of_next h]; simp

/-- A line as far as one call could read it: its bytes with the line feed, and the fault that cut
it short, if one did. -/
structure Line (S : Type) where
  bytes : List UInt8
  fault : Option IoError
  rest : S

/-- The byte that ends a line. -/
def lineFeed : UInt8 := 10

/-- Reads on to the next line feed, end of file or fault, where `taken` holds in reverse what
this call has read already. Interruptions do not count. -/
def readOn (taken : List UInt8) (s : S) : Line S :=
  match h : next s with
  | .ended fault => { bytes := taken.reverse, fault := fault, rest := s }
  | .item (.byte b) rest =>
    if b = lineFeed then { bytes := (b :: taken).reverse, fault := none, rest := rest }
    else
      have := length_of_next h
      readOn (b :: taken) rest
  | .item .endOfFile rest => { bytes := taken.reverse, fault := none, rest := rest }
  | .item (.fault e) rest =>
    if e.isInterruption then
      have := length_of_next h
      readOn taken rest
    else { bytes := taken.reverse, fault := some e, rest := rest }
termination_by (pending s).length

/-- One read of a line. -/
def readLine (s : S) : Line S := readOn [] s

/-- No byte comes from nowhere. -/
theorem length_readOn (taken : List UInt8) (s : S) :
    (readOn taken s).bytes.length + (pending (readOn taken s).rest).length
      ≤ taken.length + (pending s).length := by
  fun_induction readOn taken s with
  | case1 => simp
  | case2 =>
    rename_i h
    have := length_of_next h
    simp; omega
  | case3 taken s rest b h hb hlt ih =>
    simp only [List.length_cons] at ih
    omega
  | case4 =>
    rename_i h
    have := length_of_next h
    simp; omega
  | case5 => omega
  | case6 =>
    rename_i h _
    have := length_of_next h
    simp; omega

theorem length_readLine (s : S) :
    (readLine s).bytes.length + (pending (readLine s).rest).length ≤ (pending s).length := by
  simpa [readLine] using length_readOn [] s

end Medium

/-- A list of items is the plainest medium. At its end it reports the end of the file, again and
again, until somebody adds items. -/
instance : Medium (List Item) where
  pending := id
  ending := fun _ => none
  next := fun
    | [] => .ended none
    | i :: is => .item i is
  next_of_nil := by intro s h; cases h; rfl
  next_of_cons := by intro s i is h; cases h; exact ⟨is, rfl, rfl, rfl⟩

/-- The items of a run of bytes. -/
def Item.ofBytes (bs : List UInt8) : List Item := bs.map .byte

end RoutingDump
