import RoutingDump.Medium.OpenFile
import RoutingDump.Proofs.Medium.ReadLine

/-!
# Files of text

An open file holds the text that its node held when it was opened. A node can grow while it is
open, and what is written behind its end is still to be read. This needs that nothing behind the
end was read before, which single reads see to.
-/

namespace RoutingDump

open Text (Utf8.encode)

namespace FileTree

/-- A file at the given path holds the given text. -/
def HoldsText (t : FileTree) (path : String) (text : List Char) : Prop :=
  ∃ place bytes modified, t.resolveString path = .ok place ∧
    t.node? place = some (.file bytes modified) ∧ bytes.toList = Utf8.encode text

def appendAt (t : FileTree) (place : Nat) (bytes : List UInt8) : FileTree :=
  match t.node? place with
  | some (.file old _) => t.setNode place (.file (old ++ bytes.toArray) t.clock)
  | _ => t

theorem content_of_file {t : FileTree} {place : Nat} {bytes : Array UInt8} {modified : Int}
    (h : t.node? place = some (.file bytes modified)) : t.content place = bytes.toList := by
  rw [content, stored, h]

theorem fileAt?_of_file {t : FileTree} {place : Nat} {bytes : Array UInt8} {modified : Int}
    (h : t.node? place = some (.file bytes modified)) : t.fileAt? place = some place := by
  rw [fileAt?, h]

theorem node?_setNode {t : FileTree} {place : Nat} {old : Node} (h : t.node? place = some old)
    (new : Node) : (t.setNode place new).node? place = some new := by
  unfold node? at h
  obtain ⟨hlt, -⟩ := Array.getElem?_eq_some_iff.mp h
  show (t.nodes.setIfInBounds place new)[place]? = some new
  rw [Array.getElem?_setIfInBounds_self_of_lt hlt]

theorem node?_appendAt {t : FileTree} {place : Nat} {old : Array UInt8} {modified : Int}
    (h : t.node? place = some (.file old modified)) (bytes : List UInt8) :
    (t.appendAt place bytes).node? place = some (.file (old ++ bytes.toArray) t.clock) := by
  rw [appendAt, h]
  exact node?_setNode h _

theorem walk_concat {t : FileTree} {place dir : Nat} {steps : List PathStep} (s : PathStep)
    (h : t.walk place steps = .ok dir) : t.walk place (steps ++ [s]) = t.step dir s := by
  unfold walk at h ⊢
  rw [List.foldlM_append, h]
  show List.foldlM t.step dir [s] = t.step dir s
  rw [List.foldlM_cons]
  cases t.step dir s <;> rfl

theorem child?_of_step {t : FileTree} {dir place : Nat} {name : String}
    (h : t.step dir (.name name) = .ok place) : t.child? dir name = some place := by
  unfold step at h
  split at h
  · rename_i parent entries modified hnode
    have hnames : t.names dir = entries := by rw [names, hnode]
    rw [child?, hnames]
    dsimp only at h
    split at h
    · cases h
    · split at h
      · rename_i hfound
        cases h
        exact hfound
      · cases h
  · cases h

theorem walk_of_resolve {t : FileTree} {path : FilePath} {place : Nat}
    (h : t.resolve path = .ok place) : t.walk (t.start path) path.steps = .ok place := by
  unfold resolve at h
  split at h
  · cases h
  · rename_i hwalk
    split at h
    · cases h
    · cases h
      exact hwalk

theorem walk_of_destination {t : FileTree} {path : FilePath} {dir : Nat} {name : String}
    (h : t.destination path = .ok (some (dir, name))) :
    ∃ front, path.steps = front ++ [.name name] ∧ t.walk (t.start path) front = .ok dir := by
  unfold destination at h
  split at h
  · rename_i hlast
    obtain ⟨front, hsteps⟩ := List.getLast?_eq_some_iff.mp hlast
    rw [hsteps, List.dropLast_concat] at h
    split at h
    · cases h
    · rename_i hwalk
      split at h
      · split at h
        · cases h
        · cases h
          exact ⟨front, hsteps, hwalk⟩
      · cases h
  · split at h <;> cases h

/-- The entry that a path leads to has the name at the end of the path. -/
theorem child?_of_resolve {t : FileTree} {path : FilePath} {dir place : Nat} {name : String}
    (hentry : t.destination path = .ok (some (dir, name)))
    (hplace : t.resolve path = .ok place) : t.child? dir name = some place := by
  obtain ⟨front, hsteps, hwalk⟩ := walk_of_destination hentry
  have hall := walk_of_resolve hplace
  rw [hsteps, walk_concat _ hwalk] at hall
  exact child?_of_step hall

/-- An append to the path of a file writes behind the end of its node. -/
theorem eq_appendAt_of_append {t t' : FileTree} {path : String} {place : Nat}
    {bytes : List UInt8} (happend : t.append path bytes = .ok t')
    (hplace : t.resolveString path = .ok place) {old : Array UInt8} {modified : Int}
    (hfile : t.node? place = some (.file old modified)) : t' = t.appendAt place bytes := by
  unfold append change at happend
  unfold resolveString at hplace
  cases hpath : FilePath.ofString path with
  | error e =>
    rw [hpath] at hplace
    cases hplace
  | ok p =>
    rw [hpath] at happend hplace
    dsimp only at happend hplace
    split at happend
    · cases happend
    · cases happend
    · rename_i dir name hentry
      rw [child?_of_resolve hentry hplace] at happend
      dsimp only at happend
      rw [hfile] at happend
      cases happend
      rw [appendAt, hfile]

end FileTree

namespace OpenFile

/-- A file, and nothing behind its end has been read. -/
def Sound (f : OpenFile) : Prop :=
  ∃ place bytes modified, f.place = some place ∧
    f.tree.node? place = some (.file bytes modified) ∧ f.offset ≤ bytes.size

/-- What others write behind the end of the open file. -/
def grow (bytes : List UInt8) (f : OpenFile) : OpenFile :=
  match f.place with
  | some place => { f with tree := f.tree.appendAt place bytes }
  | none => f

theorem grow_of_place {f : OpenFile} {place : Nat} (h : f.place = some place)
    (bytes : List UInt8) : f.grow bytes = { f with tree := f.tree.appendAt place bytes } := by
  unfold grow
  split
  · rename_i hplace
    cases h.symm.trans hplace
    rfl
  · rename_i hplace
    cases h.symm.trans hplace

/-- Writing behind the end of the open file is an append to a path that leads to it. -/
theorem grow_of_append {f : OpenFile} (hsound : f.Sound) {place : Nat}
    (hplace : f.place = some place) {path : String}
    (hpath : f.tree.resolveString path = .ok place) {bytes : List UInt8} {t : FileTree}
    (happend : f.tree.append path bytes = .ok t) : f.grow bytes = { f with tree := t } := by
  obtain ⟨place', old, modified, hplace', hnode, -⟩ := hsound
  cases hplace.symm.trans hplace'
  rw [grow_of_place hplace, FileTree.eq_appendAt_of_append happend hpath hnode]

theorem unfetched_of_file {f : OpenFile} {place : Nat} {bytes : Array UInt8} {modified : Int}
    (hplace : f.place = some place) (hnode : f.tree.node? place = some (.file bytes modified)) :
    f.unfetched = bytes.toList.drop f.offset := by
  rw [unfetched, hplace]
  dsimp only
  rw [FileTree.content_of_file hnode]

theorem sound_preserved : Medium.Preserved Sound := by
  intro f i rest ⟨place, bytes, modified, hplace, hnode, hle⟩ hnext
  have hblock : f.block = (bytes.toList.drop f.offset).take blockSize := by
    rw [block_eq, unfetched_of_file hplace hnode]
  change f.next = _ at hnext
  unfold next at hnext
  split at hnext
  · cases hnext
    exact ⟨place, bytes, modified, hplace, hnode, hle⟩
  · split at hnext
    · cases hnext
    · rename_i b bs hbs
      cases hnext
      refine ⟨place, bytes, modified, hplace, hnode, ?_⟩
      have hlen := congrArg List.length (hbs.symm.trans hblock)
      have hsize : bytes.toList.length = bytes.size := Array.length_toList
      rw [List.length_cons, List.length_take, List.length_drop, hsize] at hlen
      show f.offset + (bs.length + 1) ≤ bytes.size
      omega

theorem sound_grow {f : OpenFile} (h : f.Sound) (bytes : List UInt8) : (f.grow bytes).Sound := by
  obtain ⟨place, old, modified, hplace, hnode, hle⟩ := h
  rw [grow_of_place hplace]
  refine ⟨place, old ++ bytes.toArray, f.tree.clock, hplace,
    FileTree.node?_appendAt hnode bytes, ?_⟩
  rw [Array.size_append]
  exact Nat.le_add_right_of_le hle

/-- What is written is read after what was there. -/
theorem holds_grow {f : OpenFile} (h : f.Sound) {text : List Char} (hholds : Medium.Holds f text)
    (chunk : List Char) : Medium.Holds (f.grow (Utf8.encode chunk)) (text ++ chunk) := by
  obtain ⟨place, old, modified, hplace, hnode, hle⟩ := h
  rw [grow_of_place hplace]
  constructor
  · have hunread : f.unread = Utf8.encode text :=
      (List.map_inj_right fun _ _ heq => by cases heq; rfl).mp hholds.pending_eq
    have hgrown := unfetched_of_file
      (f := { f with tree := f.tree.appendAt place (Utf8.encode chunk) }) hplace
      (FileTree.node?_appendAt hnode _)
    show Item.ofBytes (unread _) = _
    rw [unread, hgrown, Text.Utf8.encode_append, ← hunread, unread,
      unfetched_of_file hplace hnode, Array.toList_append, List.append_assoc,
      List.drop_append_of_le_length hle]
  · show ending _ = none
    rw [ending, hplace]

theorem holds_openFile {t : FileTree} {path : String} {text : List Char}
    (h : t.HoldsText path text) :
    ∃ f, t.openFile path = .ok f ∧ f.Sound ∧ Medium.Holds f text := by
  obtain ⟨place, bytes, modified, hplace, hnode, hbytes⟩ := h
  have hfile := FileTree.fileAt?_of_file hnode
  refine ⟨{ tree := t, place := some place }, ?_, ?_, ?_⟩
  · rw [FileTree.openFile, hplace]
    dsimp only
    rw [hfile]
  · exact ⟨place, bytes, modified, rfl, hnode, Nat.zero_le _⟩
  · constructor
    · show Item.ofBytes (unread _) = _
      rw [unread, unfetched_of_file rfl hnode, hbytes]
      rfl
    · rfl

end OpenFile
end RoutingDump
