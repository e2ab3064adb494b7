import Mathlib.Data.List.Nodup
import RoutingDump.Proofs.FileTree.Sound

/-!
# Ways and listings

A way to a directory passes through directories only. It stays open when files are removed, changed
or added anywhere, so the listing of a directory before and after such a change is of one node.
-/

namespace RoutingDump
namespace FileTree

open FilePath (ProperName)

/-! ### Entries by name -/

theorem lookup_eq_some_iff {β : Type} {entries : List (String × β)}
    (h : (entries.map Prod.fst).Nodup) {name : String} {b : β} :
    entries.lookup name = some b ↔ (name, b) ∈ entries := by
  constructor
  · intro hlookup
    obtain ⟨front, back, hentries, -⟩ := List.lookup_eq_some_iff.mp hlookup
    rw [hentries]
    exact List.mem_append_right _ List.mem_cons_self
  · intro hmem
    induction entries with
    | nil => cases hmem
    | cons e entries ih =>
      obtain ⟨he, hnodup⟩ := List.nodup_cons.mp h
      rw [List.lookup_cons]
      rcases List.mem_cons.mp hmem with rfl | hmem
      · rw [beq_self_eq_true]
      · have hne : name ≠ e.1 := fun heq => he (heq ▸ List.mem_map_of_mem hmem)
        rw [beq_eq_false_iff_ne.mpr hne]
        exact ih hnodup hmem

theorem Sound.child?_eq_some_iff {t : FileTree} (h : t.Sound) {place found : Nat}
    {name : String} : t.child? place name = some found ↔ (name, found) ∈ t.names place :=
  lookup_eq_some_iff (h place).names_nodup

theorem Sound.child?_unlink_of_ne {t : FileTree} (h : t.Sound) {place : Nat}
    (hplace : t.isDirectoryAt place = true) {name other : String} (hne : other ≠ name) :
    (t.unlink place name).child? place other = t.child? place other := by
  refine Option.ext fun found => ?_
  rw [(h.unlink place name).child?_eq_some_iff, h.child?_eq_some_iff, FileTree.unlink,
    names_setNames hplace, List.mem_filter]
  exact ⟨And.left, fun he => ⟨he, bne_iff_ne.mpr hne⟩⟩

/-! ### Ways to directories -/

/-- Every way to a directory still leads there. -/
structure KeepsWays (t t' : FileTree) : Prop where
  workingDirectory : t'.workingDirectory = t.workingDirectory
  directory : ∀ place, t.isDirectoryAt place = true → t'.isDirectoryAt place = true
  step : ∀ place s next, t.step place s = .ok next → t.isDirectoryAt next = true →
    t'.step place s = .ok next

theorem isDirectoryAt_of_node? {t : FileTree} {place : Nat} {node : Node}
    (h : t.node? place = some node) : t.isDirectoryAt place = node.isDirectory := by
  rw [isDirectoryAt, h]
  rfl

theorem isDirectoryAt_of_step {t : FileTree} {place next : Nat} {s : PathStep}
    (h : t.step place s = .ok next) : t.isDirectoryAt place = true := by
  unfold step at h
  split at h
  · rename_i parent names modified hnode
    exact isDirectoryAt_iff.mpr ⟨parent, names, modified, hnode⟩
  · cases h

theorem step_congr {t t' : FileTree} {place : Nat} (h : t'.node? place = t.node? place)
    (s : PathStep) : t'.step place s = t.step place s := by
  rw [step, step, h]

theorem walk_cons_eq_ok_iff {t : FileTree} {place last : Nat} {s : PathStep}
    {steps : List PathStep} :
    t.walk place (s :: steps) = .ok last ↔
      ∃ next, t.step place s = .ok next ∧ t.walk next steps = .ok last := by
  rw [walk, List.foldlM_cons]
  cases t.step place s with
  | error e => exact ⟨nofun, nofun⟩
  | ok next => exact ⟨fun h => ⟨next, rfl, h⟩, fun ⟨_, hnext, h⟩ => Except.ok.inj hnext ▸ h⟩

theorem isDirectoryAt_of_walk {t : FileTree} {place last : Nat} {steps : List PathStep}
    (h : t.walk place steps = .ok last) (hlast : t.isDirectoryAt last = true) :
    t.isDirectoryAt place = true := by
  cases steps with
  | nil =>
    cases h
    exact hlast
  | cons s steps =>
    obtain ⟨next, hstep, -⟩ := walk_cons_eq_ok_iff.mp h
    exact isDirectoryAt_of_step hstep

namespace KeepsWays

variable {t t' : FileTree} (h : KeepsWays t t')

include h

theorem trans {t'' : FileTree} (h' : KeepsWays t' t'') : KeepsWays t t'' where
  workingDirectory := h'.workingDirectory.trans h.workingDirectory
  directory place hplace := h'.directory place (h.directory place hplace)
  step place s next hstep hnext :=
    h'.step place s next (h.step place s next hstep hnext) (h.directory next hnext)

theorem walk {place last : Nat} {steps : List PathStep} (hwalk : t.walk place steps = .ok last)
    (hlast : t.isDirectoryAt last = true) : t'.walk place steps = .ok last := by
  induction steps generalizing place with
  | nil => exact hwalk
  | cons s steps ih =>
    obtain ⟨next, hstep, hrest⟩ := walk_cons_eq_ok_iff.mp hwalk
    have hnext := isDirectoryAt_of_walk hrest hlast
    exact walk_cons_eq_ok_iff.mpr ⟨next, h.step place s next hstep hnext, ih hrest⟩

theorem start (path : FilePath) : t'.start path = t.start path := by
  rw [FileTree.start, FileTree.start, h.workingDirectory]

theorem resolveString {path : String} {place : Nat} (hpath : t.resolveString path = .ok place)
    (hplace : t.isDirectoryAt place = true) : t'.resolveString path = .ok place := by
  unfold FileTree.resolveString at hpath ⊢
  cases hread : FilePath.ofString path with
  | error e =>
    rw [hread] at hpath
    cases hpath
  | ok p =>
    rw [hread] at hpath
    have hwalk := h.walk (walk_of_resolve hpath) hplace
    show t'.resolve p = .ok place
    rw [resolve, h.start, hwalk]
    dsimp only
    rw [h.directory place hplace, Bool.not_true, Bool.and_false, if_neg Bool.false_ne_true]

end KeepsWays

/-- The names of directories stay in the one directory that is changed. -/
theorem keepsWays_setNames {t : FileTree} {place : Nat} {entries : List (String × Nat)}
    (h : ∀ name next, t.child? place name = some next → t.isDirectoryAt next = true →
      entries.lookup name = some next) : KeepsWays t (t.setNames place entries) where
  workingDirectory := workingDirectory_setNames
  directory other hother := (isDirectoryAt_setNames other).trans hother
  step other s next hstep hnext := by
    by_cases hother : other = place
    · subst hother
      obtain ⟨parent, names, modified, hnode⟩ := isDirectoryAt_iff.mp (isDirectoryAt_of_step hstep)
      rw [step, hnode] at hstep
      rw [step, node?_setNames hnode]
      cases s with
      | here | up => exact hstep
      | name n =>
        dsimp only at hstep ⊢
        split at hstep
        · cases hstep
        · rename_i hlong
          split at hstep
          · rename_i found hfound
            cases hstep
            have hchild : t.child? other n = some next := by
              rw [child?, names_eq, hnode]
              exact hfound
            rw [if_neg hlong, h n next hchild hnext]
          · cases hstep
    · rw [step_congr (node?_setNames_of_ne hother)]
      exact hstep

theorem keepsWays_push (t : FileTree) (node : Node) : KeepsWays t (t.push node) where
  workingDirectory := rfl
  directory other hother := by
    obtain ⟨parent, names, modified, hnode⟩ := isDirectoryAt_iff.mp hother
    rw [isDirectoryAt_congr (node?_push_of_lt (lt_of_node? hnode) node)]
    exact hother
  step other s next hstep _ := by
    obtain ⟨parent, names, modified, hnode⟩ := isDirectoryAt_iff.mp (isDirectoryAt_of_step hstep)
    rw [step_congr (node?_push_of_lt (lt_of_node? hnode) node)]
    exact hstep

/-- Only a name is new. -/
theorem keepsWays_add {t : FileTree} {place : Nat} {node : Node} (hnode : node.names = [])
    (name : String) : KeepsWays t (t.add place name node) := by
  refine (keepsWays_push t node).trans (keepsWays_setNames fun m next hm _ => ?_)
  rw [child?, names_push hnode] at hm
  rw [List.lookup_append, hm, Option.some_or]

/-- Only names of files are gone. -/
theorem Sound.keepsWays_filter {t : FileTree} (h : t.Sound) {place : Nat}
    {p : String × Nat → Bool}
    (hp : ∀ e ∈ t.names place, t.isDirectoryAt e.2 = true → p e = true) :
    KeepsWays t (t.setNames place ((t.names place).filter p)) := by
  refine keepsWays_setNames fun name next hchild hnext => ?_
  have hmem := h.child?_eq_some_iff.mp hchild
  exact (lookup_eq_some_iff ((h place).filter p).names_nodup).mpr
    (List.mem_filter.mpr ⟨hmem, hp _ hmem hnext⟩)

theorem Sound.keepsWays_unlink {t : FileTree} (h : t.Sound) {place found : Nat} {name : String}
    (hfound : t.child? place name = some found) (hfile : t.isDirectoryAt found = false) :
    KeepsWays t (t.unlink place name) := by
  refine h.keepsWays_filter fun e he hentry => bne_iff_ne.mpr ?_
  rintro rfl
  cases (h.child?_eq_some_iff.mpr he).symm.trans hfound
  exact absurd hentry (Bool.eq_false_iff.mp hfile)

/-- A file stays a file. -/
theorem keepsWays_setNode {t : FileTree} {place : Nat} {bytes bytes' : Array UInt8}
    {modified modified' : Int} (h : t.node? place = some (.file bytes modified)) :
    KeepsWays t (t.setNode place (.file bytes' modified')) where
  workingDirectory := rfl
  directory other hother := by
    have hne : other ≠ place := by
      rintro rfl
      rw [isDirectoryAt, h] at hother
      cases hother
    rw [isDirectoryAt_congr (node?_setNode_of_ne hne _)]
    exact hother
  step other s next hstep hnext := by
    have hne : other ≠ place := by
      rintro rfl
      have hdirectory := isDirectoryAt_of_step hstep
      rw [isDirectoryAt, h] at hdirectory
      cases hdirectory
    rw [step_congr (node?_setNode_of_ne hne _)]
    exact hstep

/-! ### Listings -/

theorem list_eq_ok_iff {t : FileTree} {path : String} {entries : List (String × Node)} :
    t.list path = .ok entries ↔
      ∃ place, t.resolveString path = .ok place ∧ t.isDirectoryAt place = true ∧
        entries = t.children place := by
  unfold list
  cases t.resolveString path with
  | error e => exact ⟨nofun, nofun⟩
  | ok place =>
    dsimp only
    constructor
    · intro h
      split at h
      · rename_i hplace
        exact ⟨place, rfl, hplace, (Except.ok.inj h).symm⟩
      · cases h
    · rintro ⟨place', hplace, hdirectory, rfl⟩
      cases hplace
      rw [if_pos hdirectory]

theorem mem_children {t : FileTree} {place : Nat} {c : String × Node} :
    c ∈ t.children place ↔ ∃ found, (c.1, found) ∈ t.names place ∧ t.node? found = some c.2 := by
  unfold children
  rw [List.mem_filterMap]
  constructor
  · rintro ⟨⟨name, found⟩, he, hc⟩
    obtain ⟨node, hnode, rfl⟩ := Option.map_eq_some_iff.mp hc
    exact ⟨found, he, hnode⟩
  · rintro ⟨found, he, hnode⟩
    exact ⟨(c.1, found), he, by rw [hnode]; rfl⟩

theorem Sound.child?_of_mem {t : FileTree} (h : t.Sound) {place : Nat} {c : String × Node}
    (hc : c ∈ t.children place) :
    ∃ found, t.child? place c.1 = some found ∧ t.node? found = some c.2 := by
  obtain ⟨found, he, hnode⟩ := mem_children.mp hc
  exact ⟨found, h.child?_eq_some_iff.mpr he, hnode⟩

/-- Every name leads to a node. -/
theorem Sound.names_children {t : FileTree} (h : t.Sound) (place : Nat) :
    (t.children place).map Prod.fst = (t.names place).map Prod.fst := by
  have hall : ∀ e ∈ t.names place, ∃ node, t.node? e.2 = some node := fun e he =>
    ⟨_, Array.getElem?_eq_getElem ((h place).later e he).2⟩
  unfold children
  generalize t.names place = entries at hall
  induction entries with
  | nil => rfl
  | cons e entries ih =>
    obtain ⟨⟨node, hnode⟩, hall⟩ := List.forall_mem_cons.mp hall
    rw [List.filterMap_cons_some (by rw [hnode]; rfl), List.map_cons, List.map_cons, ih hall]

theorem Sound.names_children_nodup {t : FileTree} (h : t.Sound) (place : Nat) :
    ((t.children place).map Prod.fst).Nodup :=
  (h.names_children place).symm ▸ (h place).names_nodup

theorem Sound.lookup_children {t : FileTree} (h : t.Sound) (place : Nat) (name : String) :
    (t.children place).lookup name = (t.child? place name).bind t.node? := by
  refine Option.ext fun node => ?_
  rw [lookup_eq_some_iff (h.names_children_nodup place), mem_children, Option.bind_eq_some_iff]
  simp only [h.child?_eq_some_iff]

/-- An entry is known by its name. -/
theorem Sound.eq_of_name_eq {t : FileTree} (h : t.Sound) {place : Nat} {c d : String × Node}
    (hc : c ∈ t.children place) (hd : d ∈ t.children place) (hname : c.1 = d.1) : c = d :=
  List.inj_on_of_nodup_map (h.names_children_nodup place) hc hd hname

theorem Sound.children_setNames {t : FileTree} (h : t.Sound) {place : Nat}
    (hplace : t.isDirectoryAt place = true) {p : String × Nat → Bool} {q : String × Node → Bool}
    (hpq : ∀ e ∈ t.names place, ∀ node, t.node? e.2 = some node → p e = q (e.1, node)) :
    (t.setNames place ((t.names place).filter p)).children place =
      (t.children place).filter q := by
  rw [children, names_setNames hplace, children, List.filterMap_filter, List.filter_filterMap]
  refine List.filterMap_congr fun e he => ?_
  have hne : e.2 ≠ place := Nat.ne_of_gt ((h place).later e he).1
  rw [node?_setNames_of_ne hne]
  cases hnode : t.node? e.2 with
  | none => simp
  | some node => simp [hpq e he node hnode, Option.filter]

/-- A new file beside the others. -/
theorem Sound.mem_children_add {t : FileTree} (h : t.Sound) {place : Nat}
    (hplace : t.isDirectoryAt place = true) {name : String}
    (hfresh : t.child? place name = none) (node : Node) {c : String × Node} :
    c ∈ (t.add place name node).children place ↔
      c ∈ t.children place ∧ c.1 ≠ name ∨ c = (name, node) := by
  obtain ⟨parent, names, modified, hnode⟩ := isDirectoryAt_iff.mp hplace
  have hlt := lt_of_node? hnode
  have hnames : (t.add place name node).names place = t.names place ++ [(name, t.nodes.size)] := by
    rw [add_eq, names_setNames]
    rw [isDirectoryAt_congr (node?_push_of_lt hlt node)]
    exact hplace
  have hold : ∀ f, (c.1, f) ∈ t.names place →
      (t.add place name node).node? f = t.node? f ∧ c.1 ≠ name := by
    intro f he
    obtain ⟨hne, hf⟩ := (h place).later _ he
    refine ⟨?_, fun hname => ?_⟩
    · rw [add_eq, node?_setNames_of_ne (Nat.ne_of_gt hne), node?_push_of_lt hf]
    · rw [← hname, h.child?_eq_some_iff.mpr he] at hfresh
      cases hfresh
  rw [mem_children, mem_children, hnames]
  constructor
  · rintro ⟨f, he, hf⟩
    rcases List.mem_append.mp he with he | he
    · obtain ⟨hsame, hne⟩ := hold f he
      exact .inl ⟨⟨f, he, hsame ▸ hf⟩, hne⟩
    · cases List.mem_singleton.mp he
      rw [node?_add_new hlt] at hf
      exact .inr (Prod.ext rfl (Option.some.inj hf).symm)
  · rintro (⟨⟨f, he, hf⟩, -⟩ | rfl)
    · exact ⟨f, List.mem_append_left _ he, (hold f he).1.trans hf⟩
    · exact ⟨t.nodes.size, List.mem_append_right _ List.mem_cons_self, node?_add_new hlt name node⟩

/-- A change to one entry. -/
theorem Sound.mem_children_setNode {t : FileTree} (h : t.Sound) {place found : Nat}
    {name : String} (hfound : t.child? place name = some found) {old : Node}
    (hold : t.node? found = some old) (node : Node) {c : String × Node} :
    c ∈ (t.setNode found node).children place ↔
      c ∈ t.children place ∧ c.1 ≠ name ∨ c = (name, node) := by
  have hmem := h.child?_eq_some_iff.mp hfound
  have hplace : place ≠ found := Nat.ne_of_lt ((h place).later _ hmem).1
  have hiff : ∀ f, (c.1, f) ∈ t.names place → (f = found ↔ c.1 = name) := by
    intro f he
    constructor
    · intro hf
      exact congrArg Prod.fst (List.inj_on_of_nodup_map (h place).places_nodup he hmem hf)
    · intro hname
      exact congrArg Prod.snd (List.inj_on_of_nodup_map (h place).names_nodup he hmem hname)
  rw [mem_children, mem_children, names_congr (node?_setNode_of_ne hplace node)]
  constructor
  · rintro ⟨f, he, hf⟩
    by_cases hname : c.1 = name
    · cases (hiff f he).mpr hname
      rw [node?_setNode hold] at hf
      exact .inr (Prod.ext hname (Option.some.inj hf).symm)
    · rw [node?_setNode_of_ne (mt (hiff f he).mp hname)] at hf
      exact .inl ⟨⟨f, he, hf⟩, hname⟩
  · rintro (⟨⟨f, he, hf⟩, hname⟩ | rfl)
    · exact ⟨f, he, (node?_setNode_of_ne (mt (hiff f he).mp hname) node).trans hf⟩
    · exact ⟨found, hmem, node?_setNode hold node⟩

end FileTree
end RoutingDump
