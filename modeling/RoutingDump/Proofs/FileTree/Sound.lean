import RoutingDump.Proofs.FileTree.Paths
import RoutingDump.Proofs.Medium.TextFile

/-!
# Sound trees

What a file system sees to holds of every tree that is built here: no name comes twice in a
directory, no entry comes twice, every name is one that a path can lead to, and an entry is newer
than its directory, so no directory lies in itself. Changes to a tree are changes to single nodes,
so each of them is settled by what it does to the names in one directory.
-/

namespace RoutingDump

/-- The names in a directory. A file has none. -/
def Node.names : Node → List (String × Nat)
  | .directory _ names _ => names
  | .file _ _ => []

namespace FileTree

open FilePath (ProperName)

/-! ### Single nodes -/

theorem names_eq (t : FileTree) (place : Nat) :
    t.names place = ((t.node? place).map Node.names).getD [] := by
  unfold names
  split
  · rename_i hnode
    rw [hnode]
    rfl
  · rename_i hnot
    cases hnode : t.node? place with
    | none => rfl
    | some node =>
      cases node with
      | file bytes modified => rfl
      | directory parent names modified => exact absurd hnode (hnot parent names modified)

theorem names_congr {t t' : FileTree} {place : Nat} (h : t'.node? place = t.node? place) :
    t'.names place = t.names place := by
  rw [names_eq, names_eq, h]

theorem isDirectoryAt_congr {t t' : FileTree} {place : Nat}
    (h : t'.node? place = t.node? place) : t'.isDirectoryAt place = t.isDirectoryAt place := by
  rw [isDirectoryAt, isDirectoryAt, h]

theorem isDirectoryAt_iff {t : FileTree} {place : Nat} :
    t.isDirectoryAt place = true ↔
      ∃ parent names modified, t.node? place = some (.directory parent names modified) := by
  unfold isDirectoryAt
  cases t.node? place with
  | none => simp
  | some node => cases node <;> simp [Node.isDirectory]

theorem lt_of_node? {t : FileTree} {place : Nat} {node : Node} (h : t.node? place = some node) :
    place < t.nodes.size :=
  (Array.getElem?_eq_some_iff.mp h).1

theorem node?_eq_none_iff {t : FileTree} {place : Nat} :
    t.node? place = none ↔ t.nodes.size ≤ place :=
  Array.getElem?_eq_none_iff

theorem node?_setNode_of_ne {t : FileTree} {place other : Nat} (h : other ≠ place) (node : Node) :
    (t.setNode place node).node? other = t.node? other :=
  Array.getElem?_setIfInBounds_ne h.symm

theorem size_setNode (t : FileTree) (place : Nat) (node : Node) :
    (t.setNode place node).nodes.size = t.nodes.size :=
  Array.size_setIfInBounds

/-! ### The names in a directory -/

section SetNames

variable {t : FileTree} {place : Nat} {entries : List (String × Nat)}

theorem setNames_of_directory {parent : Nat} {names : List (String × Nat)} {modified : Int}
    (h : t.node? place = some (.directory parent names modified)) :
    t.setNames place entries = t.setNode place (.directory parent entries modified) := by
  rw [setNames, h]

theorem setNames_of_not_directory (h : t.isDirectoryAt place = false) :
    t.setNames place entries = t := by
  unfold setNames
  split
  · rename_i hnode
    rw [isDirectoryAt_iff.mpr ⟨_, _, _, hnode⟩] at h
    cases h
  · rfl

theorem node?_setNames_of_ne {other : Nat} (h : other ≠ place) :
    (t.setNames place entries).node? other = t.node? other := by
  unfold setNames
  split
  · exact node?_setNode_of_ne h _
  · rfl

theorem node?_setNames {parent : Nat} {names : List (String × Nat)} {modified : Int}
    (h : t.node? place = some (.directory parent names modified)) :
    (t.setNames place entries).node? place = some (.directory parent entries modified) := by
  rw [setNames_of_directory h]
  exact node?_setNode h _

theorem names_setNames (h : t.isDirectoryAt place = true) :
    (t.setNames place entries).names place = entries := by
  obtain ⟨parent, names, modified, hnode⟩ := isDirectoryAt_iff.mp h
  rw [names_eq, node?_setNames hnode]
  rfl

theorem names_setNames_of_ne {other : Nat} (h : other ≠ place) :
    (t.setNames place entries).names other = t.names other :=
  names_congr (node?_setNames_of_ne h)

theorem isDirectoryAt_setNames (other : Nat) :
    (t.setNames place entries).isDirectoryAt other = t.isDirectoryAt other := by
  by_cases h : other = place
  · subst h
    cases hdirectory : t.isDirectoryAt other with
    | true =>
      obtain ⟨parent, names, modified, hnode⟩ := isDirectoryAt_iff.mp hdirectory
      exact isDirectoryAt_iff.mpr ⟨parent, entries, modified, node?_setNames hnode⟩
    | false => rw [setNames_of_not_directory hdirectory, hdirectory]
  · exact isDirectoryAt_congr (node?_setNames_of_ne h)

theorem size_setNames : (t.setNames place entries).nodes.size = t.nodes.size := by
  unfold setNames
  split
  · exact size_setNode t place _
  · rfl

theorem workingDirectory_setNames :
    (t.setNames place entries).workingDirectory = t.workingDirectory := by
  unfold setNames
  split <;> rfl

theorem clock_setNames : (t.setNames place entries).clock = t.clock := by
  unfold setNames
  split <;> rfl

theorem setNames_names : t.setNames place (t.names place) = t := by
  cases hdirectory : t.isDirectoryAt place with
  | false => exact setNames_of_not_directory hdirectory
  | true =>
    obtain ⟨parent, names, modified, hnode⟩ := isDirectoryAt_iff.mp hdirectory
    have hnames : t.names place = names := by
      rw [names_eq, hnode]
      rfl
    have hsame : t.nodes.setIfInBounds place (.directory parent names modified) = t.nodes := by
      refine Array.ext_getElem? fun other => ?_
      by_cases h : other = place
      · subst h
        exact (node?_setNode hnode _).trans hnode.symm
      · exact node?_setNode_of_ne h _
    rw [setNames_of_directory hnode, hnames, setNode, hsame]

theorem setNames_setNames {later : List (String × Nat)} :
    (t.setNames place entries).setNames place later = t.setNames place later := by
  cases hdirectory : t.isDirectoryAt place with
  | false =>
    rw [setNames_of_not_directory hdirectory]
  | true =>
    obtain ⟨parent, names, modified, hnode⟩ := isDirectoryAt_iff.mp hdirectory
    rw [setNames_of_directory (node?_setNames hnode), setNames_of_directory hnode,
      setNames_of_directory hnode, setNode, setNode, setNode]
    simp only [Array.setIfInBounds_setIfInBounds]

end SetNames

theorem isDirectoryAt_unlink (t : FileTree) (place : Nat) (name : String) (other : Nat) :
    (t.unlink place name).isDirectoryAt other = t.isDirectoryAt other :=
  isDirectoryAt_setNames other

/-! ### New nodes -/

/-- The tree with one more node, which no name leads to yet. -/
def push (t : FileTree) (node : Node) : FileTree := { t with nodes := t.nodes.push node }

theorem size_push (t : FileTree) (node : Node) :
    (t.push node).nodes.size = t.nodes.size + 1 :=
  Array.size_push node

theorem node?_push_of_lt {t : FileTree} {place : Nat} (h : place < t.nodes.size) (node : Node) :
    (t.push node).node? place = t.node? place :=
  (Array.getElem?_push_lt h).trans (Array.getElem?_eq_getElem h).symm

theorem node?_push_size (t : FileTree) (node : Node) :
    (t.push node).node? t.nodes.size = some node :=
  Array.getElem?_push_size

theorem names_push {t : FileTree} {node : Node} (h : node.names = []) (place : Nat) :
    (t.push node).names place = t.names place := by
  rcases Nat.lt_trichotomy place t.nodes.size with hlt | rfl | hgt
  · exact names_congr (node?_push_of_lt hlt node)
  · rw [names_eq, names_eq, node?_push_size, node?_eq_none_iff.mpr (Nat.le_refl _)]
    exact h
  · have hnone : t.node? place = none := node?_eq_none_iff.mpr (Nat.le_of_lt hgt)
    have hnone' : (t.push node).node? place = none :=
      node?_eq_none_iff.mpr (by rw [size_push]; exact hgt)
    exact names_congr (hnone'.trans hnone.symm)

theorem add_eq (t : FileTree) (place : Nat) (name : String) (node : Node) :
    t.add place name node =
      (t.push node).setNames place (t.names place ++ [(name, t.nodes.size)]) := rfl

theorem node?_add_new {t : FileTree} {place : Nat} (h : place < t.nodes.size) (name : String)
    (node : Node) : (t.add place name node).node? t.nodes.size = some node := by
  rw [add_eq, node?_setNames_of_ne (Nat.ne_of_gt h)]
  exact node?_push_size t node

/-! ### Sound trees -/

/-- What holds of the names in a directory at `place` among `size` nodes. -/
structure SoundNames (place size : Nat) (entries : List (String × Nat)) : Prop where
  names_nodup : (entries.map Prod.fst).Nodup
  places_nodup : (entries.map Prod.snd).Nodup
  proper : ∀ e ∈ entries, ProperName e.1
  later : ∀ e ∈ entries, place < e.2 ∧ e.2 < size

def Sound (t : FileTree) : Prop := ∀ place, SoundNames place t.nodes.size (t.names place)

instance (place size : Nat) (entries : List (String × Nat)) :
    Decidable (SoundNames place size entries) :=
  decidable_of_iff ((entries.map Prod.fst).Nodup ∧ (entries.map Prod.snd).Nodup ∧
      (∀ e ∈ entries, ProperName e.1) ∧ ∀ e ∈ entries, place < e.2 ∧ e.2 < size)
    ⟨fun ⟨hnames, hplaces, hproper, hlater⟩ => ⟨hnames, hplaces, hproper, hlater⟩,
      fun h => ⟨h.names_nodup, h.places_nodup, h.proper, h.later⟩⟩

namespace SoundNames

variable {place size : Nat} {entries : List (String × Nat)}

theorem nil : SoundNames place size [] := ⟨List.nodup_nil, List.nodup_nil, nofun, nofun⟩

theorem mono (h : SoundNames place size entries) {size' : Nat} (hsize : size ≤ size') :
    SoundNames place size' entries where
  names_nodup := h.names_nodup
  places_nodup := h.places_nodup
  proper := h.proper
  later e he := ⟨(h.later e he).1, Nat.lt_of_lt_of_le (h.later e he).2 hsize⟩

theorem filter (h : SoundNames place size entries) (p : String × Nat → Bool) :
    SoundNames place size (entries.filter p) where
  names_nodup := h.names_nodup.sublist (List.filter_sublist.map Prod.fst)
  places_nodup := h.places_nodup.sublist (List.filter_sublist.map Prod.snd)
  proper e he := h.proper e (List.mem_filter.mp he).1
  later e he := h.later e (List.mem_filter.mp he).1

/-- A new entry is the newest. -/
theorem concat (h : SoundNames place size entries) (hplace : place < size) {name : String}
    (hname : ProperName name) (hfresh : entries.lookup name = none) :
    SoundNames place (size + 1) (entries ++ [(name, size)]) where
  names_nodup := by
    rw [List.map_append, List.nodup_append]
    refine ⟨h.names_nodup, List.pairwise_singleton _ _, ?_⟩
    rintro n hn m hm rfl
    obtain ⟨e, he, rfl⟩ := List.mem_map.mp hn
    have hne := List.lookup_eq_none_iff.mp hfresh e he
    rw [List.mem_singleton.mp hm] at hne
    exact absurd rfl (bne_iff_ne.mp hne)
  places_nodup := by
    rw [List.map_append, List.nodup_append]
    refine ⟨h.places_nodup, List.pairwise_singleton _ _, ?_⟩
    rintro n hn m hm rfl
    obtain ⟨e, he, rfl⟩ := List.mem_map.mp hn
    have hlt := (h.later e he).2
    rw [List.mem_singleton.mp hm] at hlt
    exact Nat.lt_irrefl _ hlt
  proper e he := by
    rcases List.mem_append.mp he with he | he
    · exact h.proper e he
    · rw [List.mem_singleton.mp he]
      exact hname
  later e he := by
    rcases List.mem_append.mp he with he | he
    · exact ⟨(h.later e he).1, Nat.lt_succ_of_lt (h.later e he).2⟩
    · rw [List.mem_singleton.mp he]
      exact ⟨hplace, Nat.lt_succ_self _⟩

end SoundNames

theorem sound_iff {t : FileTree} :
    t.Sound ↔ ∀ place < t.nodes.size, SoundNames place t.nodes.size (t.names place) := by
  refine ⟨fun h place _ => h place, fun h place => ?_⟩
  by_cases hplace : place < t.nodes.size
  · exact h place hplace
  · rw [names_eq, node?_eq_none_iff.mpr (Nat.not_lt.mp hplace)]
    exact .nil

instance (t : FileTree) : Decidable t.Sound := decidable_of_iff _ sound_iff.symm

namespace Sound

variable {t : FileTree} (h : t.Sound)

include h

theorem setNames {place : Nat} {entries : List (String × Nat)}
    (hentries : SoundNames place t.nodes.size entries) : (t.setNames place entries).Sound := by
  intro other
  rw [size_setNames]
  by_cases hother : other = place
  · subst hother
    cases hdirectory : t.isDirectoryAt other with
    | true =>
      rw [names_setNames hdirectory]
      exact hentries
    | false =>
      rw [setNames_of_not_directory hdirectory]
      exact h other
  · rw [names_setNames_of_ne hother]
    exact h other

theorem unlink (place : Nat) (name : String) : (t.unlink place name).Sound :=
  h.setNames ((h place).filter _)

theorem push {node : Node} (hnode : node.names = []) : (t.push node).Sound := by
  intro place
  rw [names_push hnode]
  rw [size_push]
  exact (h place).mono (Nat.le_succ _)

theorem add {place : Nat} {name : String} {node : Node} (hplace : t.isDirectoryAt place = true)
    (hname : ProperName name) (hfresh : t.child? place name = none) (hnode : node.names = []) :
    (t.add place name node).Sound := by
  obtain ⟨parent, names, modified, hdirectory⟩ := isDirectoryAt_iff.mp hplace
  have hentries := (h place).concat (lt_of_node? hdirectory) hname hfresh
  rw [add_eq]
  refine (h.push hnode).setNames ?_
  rw [size_push]
  exact hentries

/-- A change to a node that leaves its names as they are. -/
theorem setNode {place : Nat} {node : Node}
    (hnames : ∀ old, t.node? place = some old → node.names = old.names) :
    (t.setNode place node).Sound := by
  intro other
  have hsame : (t.setNode place node).names other = t.names other := by
    by_cases hother : other = place
    · subst hother
      cases hold : t.node? other with
      | none =>
        have hnone : (t.setNode other node).node? other = none := by
          rw [node?_eq_none_iff, size_setNode]
          exact node?_eq_none_iff.mp hold
        exact names_congr (hnone.trans hold.symm)
      | some old =>
        rw [names_eq, names_eq, node?_setNode hold, hold]
        exact hnames old hold
    · exact names_congr (node?_setNode_of_ne hother node)
  rw [hsame, size_setNode]
  exact h other

end Sound

/-! ### What is done to a tree -/

theorem isDirectoryAt_of_destination {t : FileTree} {path : FilePath} {place : Nat}
    {name : String} (h : t.destination path = .ok (some (place, name))) :
    t.isDirectoryAt place = true := by
  unfold destination at h
  split at h
  · split at h
    · cases h
    · split at h
      · rename_i hdirectory
        split at h
        · cases h
        · cases h
          exact hdirectory
      · cases h
  · split at h <;> cases h

theorem proper_of_destination {t : FileTree} {path : FilePath} {place : Nat} {name : String}
    (hpath : path.Proper) (h : t.destination path = .ok (some (place, name))) :
    ProperName name := by
  obtain ⟨front, hsteps, -⟩ := walk_of_destination h
  exact hpath name (hsteps ▸ List.mem_append_right _ List.mem_cons_self)

namespace Sound

variable {t : FileTree} (h : t.Sound)

include h

theorem makeDirectory {t' : FileTree} {path : FilePath} (hpath : path.Proper)
    (hmake : t.makeDirectory path = .ok t') : t'.Sound := by
  unfold FileTree.makeDirectory at hmake
  split at hmake
  · cases hmake
  · cases hmake
  · rename_i place name hentry
    split at hmake
    · cases hmake
    · rename_i hfresh
      cases hmake
      exact h.add (isDirectoryAt_of_destination hentry) (proper_of_destination hpath hentry)
        (Option.not_isSome_iff_eq_none.mp hfresh) rfl

theorem ensureDirectory {path : FilePath} (hpath : path.Proper) :
    (t.ensureDirectory path).1.Sound := by
  unfold FileTree.ensureDirectory
  split
  · rename_i hmake
    exact h.makeDirectory hpath hmake
  · split <;> exact h

theorem makeLevels {path : FilePath} (hpath : path.Proper) (depth : Nat) :
    (t.makeLevels path depth).1.Sound := by
  induction depth generalizing path with
  | zero => exact h
  | succ depth ih =>
    rw [FileTree.makeLevels]
    split
    · exact h
    · split
      · have habove := ih hpath.parent
        split <;> rename_i hlevels <;> rw [hlevels] at habove
        · exact habove.ensureDirectory hpath
        · exact habove
      · exact h.ensureDirectory hpath

theorem makeDirectories (path : String) : (t.makeDirectories path).1.Sound := by
  unfold FileTree.makeDirectories
  split
  · exact h
  · rename_i hpath
    exact h.makeLevels (FilePath.proper_of_ofString hpath) _

theorem change {t' : FileTree} {path : String} {f : Array UInt8 → Array UInt8}
    (hchange : t.change path f = .ok t') : t'.Sound := by
  unfold FileTree.change at hchange
  split at hchange
  · cases hchange
  · rename_i p hpath
    split at hchange
    · cases hchange
    · cases hchange
    · rename_i place name hentry
      split at hchange
      · rename_i hfresh
        cases hchange
        exact h.add (isDirectoryAt_of_destination hentry)
          (proper_of_destination (FilePath.proper_of_ofString hpath) hentry) hfresh rfl
      · split at hchange
        · rename_i hfile
          cases hchange
          refine h.setNode fun old hold => ?_
          cases hfile.symm.trans hold
          rfl
        · cases hchange

theorem remove {t' : FileTree} {path : String} (hremove : t.remove path = .ok t') :
    t'.Sound := by
  unfold FileTree.remove at hremove
  split at hremove
  · cases hremove
  · split at hremove
    · cases hremove
    · cases hremove
    · rename_i place name hentry
      split at hremove
      · cases hremove
      · split at hremove
        · cases hremove
        · split at hremove
          · cases hremove
          · cases hremove
            exact h.unlink place name

theorem touch (path : String) (modified : Int) : (t.touch path modified).Sound := by
  unfold FileTree.touch
  split
  · exact h
  · split
    · exact h
    · rename_i node hnode
      refine h.setNode fun old hold => ?_
      cases hnode.symm.trans hold
      cases node <;> rfl

end Sound

theorem sound_empty (clock : Int) : (empty clock).Sound := by
  intro place
  have hnames : (empty clock).names place = [] := by
    rw [names_eq]
    cases place with
    | zero => rfl
    | succ place => rfl
  rw [hnames]
  exact .nil

theorem sound_withWorkingDirectory {way : List String} (h : ∀ name ∈ way, ProperName name)
    (clock : Int) : (withWorkingDirectory way clock).Sound := by
  have hlevels (t : FileTree) (ht : t.Sound)
      (hdirectory : t.isDirectoryAt t.workingDirectory = true)
      (hempty : t.names t.workingDirectory = []) :
      (way.foldl (fun t name =>
        { t.add t.workingDirectory name (.directory t.workingDirectory [] clock) with
          workingDirectory := t.nodes.size }) t).Sound := by
    induction way generalizing t with
    | nil => exact ht
    | cons name way ih =>
      obtain ⟨hname, hway⟩ := List.forall_mem_cons.mp h
      have hfresh : t.child? t.workingDirectory name = none := by
        rw [child?, hempty]
        rfl
      obtain ⟨parent, names, modified, hnode⟩ := isDirectoryAt_iff.mp hdirectory
      have hnew := node?_add_new (lt_of_node? hnode) name
        (.directory t.workingDirectory [] clock)
      -- the name leads to the next working directory, which is empty again
      refine ih hway _ (ht.add hdirectory hname hfresh rfl)
        (isDirectoryAt_iff.mpr ⟨_, _, _, hnew⟩) ?_
      exact (names_eq _ _).trans (congrArg (fun o : Option Node => (o.map Node.names).getD []) hnew)
  exact hlevels (empty clock) (sound_empty clock) rfl rfl

/-- The trees that come about when a program works in a directory: by making directories, changing
and removing files and setting times. -/
inductive Built : FileTree → Prop
  | start {way : List String} (h : ∀ name ∈ way, ProperName name) (clock : Int) :
    Built (withWorkingDirectory way clock)
  | makeDirectories {t : FileTree} (h : Built t) (path : String) : Built (t.makeDirectories path).1
  | change {t t' : FileTree} {path : String} {f : Array UInt8 → Array UInt8} (h : Built t)
    (hchange : t.change path f = .ok t') : Built t'
  | remove {t t' : FileTree} {path : String} (h : Built t) (hremove : t.remove path = .ok t') :
    Built t'
  | touch {t : FileTree} (h : Built t) (path : String) (modified : Int) :
    Built (t.touch path modified)

theorem Built.sound {t : FileTree} (h : Built t) : t.Sound := by
  induction h with
  | start h clock => exact sound_withWorkingDirectory h clock
  | makeDirectories h path ih => exact ih.makeDirectories path
  | change h hchange ih => exact ih.change hchange
  | remove h hremove ih => exact ih.remove hremove
  | touch h path modified ih => exact ih.touch path modified

end FileTree
end RoutingDump
