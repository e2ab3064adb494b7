import RoutingDump.LogFile.Rotation
import RoutingDump.Proofs.FileTree.Ways

/-!
# Cleaning a directory of logs

A log is an entry whose name has the extension, be it a file or a directory. What a cleaning tries
to delete are the logs with a newer one beside them. A file goes and a directory stays, so what is
left is said of each entry by itself, however the entries are ordered.
-/

namespace RoutingDump
namespace LogFile

open FilePath (ProperName)
open FileTree (KeepsWays)

/-! ### Names of logs -/

theorem bne_of_not_mem {cs : List Char} {mark : Char} (h : mark ∉ cs) :
    ∀ c ∈ cs, (c != mark) = true :=
  fun _ hc => bne_iff_ne.mpr fun heq => h (heq ▸ hc)

theorem extension?_of_split {name : String} {stem back : List Char} (hback : '.' ∉ back)
    (hname : name.toList = stem ++ '.' :: back) (hup : name.toList ≠ ['.', '.']) :
    extension? name = if stem.isEmpty then none else some (String.ofList back) := by
  have hreverse : name.toList.reverse = back.reverse ++ '.' :: stem.reverse := by
    rw [hname, List.reverse_append, List.reverse_cons, List.append_assoc, List.singleton_append]
  have hall := bne_of_not_mem fun hmem => hback (List.mem_reverse.mp hmem)
  have htake : name.toList.reverse.takeWhile (· != '.') = back.reverse := by
    rw [hreverse, List.takeWhile_append_of_pos hall,
      List.takeWhile_cons_of_neg (p := (· != '.')) (by decide), List.append_nil]
  unfold extension?
  dsimp only
  rw [if_neg hup, htake, hreverse, List.drop_left]
  dsimp only
  rw [List.isEmpty_reverse, List.reverse_reverse]

theorem extension?_of_not_mem {name : String} (h : '.' ∉ name.toList) :
    extension? name = none := by
  have hall := bne_of_not_mem fun hmem => h (List.mem_reverse.mp hmem)
  have htake : name.toList.reverse.takeWhile (· != '.') = name.toList.reverse := by
    rw [← List.append_nil name.toList.reverse, List.takeWhile_append_of_pos hall,
      List.takeWhile_nil]
  unfold extension?
  dsimp only
  rw [htake, List.drop_length]
  split <;> rfl

/-- An extension stands behind the last dot, in front of which there must be something. -/
theorem extension?_eq_some_iff {name ext : String} :
    extension? name = some ext ↔
      name.toList ≠ ['.', '.'] ∧ '.' ∉ ext.toList ∧
        ∃ stem, stem ≠ [] ∧ name.toList = stem ++ '.' :: ext.toList := by
  constructor
  · intro h
    have hup : name.toList ≠ ['.', '.'] := by
      intro hup
      rw [extension?, hup] at h
      cases h
    by_cases hdot : '.' ∈ name.toList.reverse
    · obtain ⟨back, front, hreverse, hback⟩ := List.eq_append_cons_of_mem hdot
      have hname : name.toList = front.reverse ++ '.' :: back.reverse := by
        rw [← List.reverse_reverse name.toList, hreverse, List.reverse_append, List.reverse_cons,
          List.append_assoc, List.singleton_append]
      have hback' : '.' ∉ back.reverse := fun hmem => hback (List.mem_reverse.mp hmem)
      rw [extension?_of_split hback' hname hup] at h
      split at h
      · cases h
      · rename_i hstem
        cases h
        rw [String.toList_ofList]
        exact ⟨hup, hback', front.reverse, fun hnil => hstem (List.isEmpty_iff.mpr hnil), hname⟩
    · rw [extension?_of_not_mem fun hmem => hdot (List.mem_reverse.mpr hmem)] at h
      cases h
  · rintro ⟨hup, hext, stem, hstem, hname⟩
    rw [extension?_of_split hext hname hup, if_neg (mt List.isEmpty_iff.mp hstem),
      String.ofList_toList]

/-- Logs end in their extension and do not start with it. -/
theorem isLogName_iff {name : String} :
    isLogName name = true ↔ ∃ stem, stem ≠ [] ∧ name.toList = stem ++ ".log".toList := by
  rw [isLogName, beq_iff_eq, extension?_eq_some_iff]
  constructor
  · rintro ⟨-, -, h⟩
    exact h
  · rintro ⟨stem, hstem, hname⟩
    refine ⟨fun hup => ?_, by decide, stem, hstem, hname⟩
    have hlength := congrArg List.length (hname.symm.trans hup)
    rw [List.length_append] at hlength
    cases stem with
    | nil => exact absurd rfl hstem
    | cons c stem =>
      simp at hlength

/-! ### The newest log -/

/-- The logs among some entries, directories included. -/
def logs (entries : List (String × Node)) : List (String × Node) :=
  entries.filter fun c => isLogName c.1

/-- The logs that are files. -/
def logFiles (entries : List (String × Node)) : List (String × Node) :=
  (logs entries).filter fun c => !c.2.isDirectory

theorem mem_logs {entries : List (String × Node)} {c : String × Node} :
    c ∈ logs entries ↔ c ∈ entries ∧ isLogName c.1 = true :=
  List.mem_filter

theorem mem_logFiles {entries : List (String × Node)} {c : String × Node} :
    c ∈ logFiles entries ↔ c ∈ logs entries ∧ c.2.isDirectory = false := by
  rw [logFiles, List.mem_filter, Bool.not_eq_true']

/-- No two of the entries were changed at the same time. -/
def DistinctTimes (entries : List (String × Node)) : Prop :=
  (entries.map fun c => c.2.modified).Nodup

theorem newestFirst_pairwise {entries : List (String × Node)} (h : DistinctTimes entries) :
    (newestFirst entries).Pairwise fun c d => d.2.modified < c.2.modified := by
  have hsorted : (newestFirst entries).Pairwise fun c d => d.2.modified ≤ c.2.modified := by
    refine (List.pairwise_mergeSort ?_ ?_ entries).imp of_decide_eq_true
    · intro a b c hab hbc
      exact decide_eq_true (Int.le_trans (of_decide_eq_true hbc) (of_decide_eq_true hab))
    · intro a b
      rw [Bool.or_eq_true, decide_eq_true_iff, decide_eq_true_iff]
      exact Int.le_total _ _
  have hdistinct : (newestFirst entries).Pairwise fun c d => c.2.modified ≠ d.2.modified :=
    List.pairwise_map.mp (((List.mergeSort_perm entries _).map _).nodup_iff.mpr h)
  exact (hsorted.and hdistinct).imp fun ⟨hle, hne⟩ => Int.lt_iff_le_and_ne.mpr ⟨hle, hne.symm⟩

/-- What is behind the first of the sorted logs are those with a newer one. -/
theorem mem_outdated {entries : List (String × Node)} (h : DistinctTimes (logs entries))
    {name : String} :
    name ∈ outdated entries ↔
      ∃ c ∈ logs entries, c.1 = name ∧ ∃ d ∈ logs entries, c.2.modified < d.2.modified := by
  have hsorted := newestFirst_pairwise h
  have hmem (c : String × Node) : c ∈ newestFirst (logs entries) ↔ c ∈ logs entries :=
    (List.mergeSort_perm (logs entries) _).mem_iff
  show name ∈ ((newestFirst (logs entries)).drop 1).map (·.1) ↔ _
  simp only [← hmem]
  cases hnewest : newestFirst (logs entries) with
  | nil =>
    rw [List.drop_nil]
    exact ⟨nofun, fun ⟨c, hc, _⟩ => absurd hc (List.not_mem_nil)⟩
  | cons newest older =>
    rw [hnewest] at hsorted
    obtain ⟨hfirst, -⟩ := List.pairwise_cons.mp hsorted
    rw [List.drop_one, List.tail_cons, List.mem_map]
    constructor
    · rintro ⟨c, hc, rfl⟩
      exact ⟨c, List.mem_cons_of_mem _ hc, rfl, newest, List.mem_cons_self, hfirst c hc⟩
    · rintro ⟨c, hc, rfl, d, hd, hlt⟩
      have hle : d.2.modified ≤ newest.2.modified := by
        rcases List.mem_cons.mp hd with rfl | hd
        · exact Int.le_refl _
        · exact Int.le_of_lt (hfirst d hd)
      rcases List.mem_cons.mp hc with rfl | hc
      · exact absurd (Int.lt_of_lt_of_le hlt hle) (Int.lt_irrefl _)
      · exact ⟨c, hc, rfl⟩

/-! ### Removing by name -/

theorem toList_join (directory name : String) :
    ∃ front, (join directory name).toList = front ++ '/' :: name.toList ∧
      (directory.toList = front ++ ['/'] ∨ directory.toList = front) := by
  unfold join
  by_cases h : directory.toList.getLast? = some '/'
  · obtain ⟨front, hfront⟩ := List.getLast?_eq_some_iff.mp h
    refine ⟨front, ?_, .inl hfront⟩
    rw [if_pos (beq_iff_eq.mpr h), String.toList_append, hfront, List.append_assoc,
      List.singleton_append]
  · refine ⟨directory.toList, ?_, .inr rfl⟩
    rw [if_neg (mt beq_iff_eq.mp h), String.toList_append, String.toList_append, List.append_assoc]
    rfl

/-- A name put behind a path is one step more. -/
theorem ofString_join {directory name : String} {p : FilePath}
    (hdirectory : FilePath.ofString directory = .ok p) (hname : ProperName name) :
    FilePath.ofString (join directory name) =
      if FilePath.maxPathBytes < (join directory name).utf8ByteSize then .error .nameTooLong
      else .ok (p.child name) := by
  obtain ⟨hnul, hsome, -, rfl⟩ := FilePath.ofString_eq_ok_iff.mp hdirectory
  obtain ⟨front, hjoin, hfront⟩ := toList_join directory name
  have hnul' : Char.ofNat 0 ∉ (join directory name).toList := by
    rw [hjoin, List.mem_append, List.mem_cons]
    rintro (h | h | h)
    · rcases hfront with hfront | hfront
      · exact hnul (hfront ▸ List.mem_append_left _ h)
      · exact hnul (hfront ▸ h)
    · cases h
    · exact hname.noNul h
  have hsome' : (join directory name).toList ≠ [] := by
    rw [hjoin]
    exact List.append_ne_nil_of_right_ne_nil _ (List.cons_ne_nil _ _)
  have hhead : (join directory name).toList.head? = directory.toList.head? := by
    rw [hjoin]
    rcases hfront with hfront | hfront
    · rw [hfront]
      cases front <;> rfl
    · rw [hfront] at hsome ⊢
      exact List.head?_append_of_ne_nil _ hsome
  have hsteps : (FilePath.pieces '/' (join directory name).toList).filterMap FilePath.step? =
      (FilePath.pieces '/' directory.toList).filterMap FilePath.step? ++ [.name name] := by
    have hlast : [name.toList].filterMap FilePath.step? = [.name name] := by
      rw [List.filterMap_cons_some (FilePath.step?_of_proper hname), List.filterMap_nil]
    rw [hjoin, FilePath.pieces_append, FilePath.pieces_of_not_mem hname.noSlash,
      List.filterMap_append, hlast]
    rcases hfront with hfront | hfront
    · rw [hfront, FilePath.pieces_append, List.filterMap_append]
      exact congrArg (· ++ _) (List.append_nil _).symm
    · rw [hfront]
  have hslash : ((join directory name).toList.getLast? == some '/') = false := by
    refine beq_eq_false_iff_ne.mpr fun hlast => hname.noSlash ?_
    rw [hjoin, List.getLast?_append_cons, List.getLast?_cons_of_ne_nil hname.some] at hlast
    exact List.mem_of_getLast? hlast
  rw [FilePath.ofString_of_text hnul' hsome', hhead, hsteps, hslash]
  rfl

/-- Where an entry of a directory is looked for. -/
theorem destination_child {t : FileTree} {p : FilePath} {place : Nat} {name : String}
    (hplace : t.resolve p = .ok place) (hdirectory : t.isDirectoryAt place = true) :
    t.destination (p.child name) =
      if FilePath.maxNameBytes < name.utf8ByteSize then .error .nameTooLong
      else .ok (some (place, name)) := by
  have hwalk : t.walk (t.start (p.child name)) p.steps = .ok place :=
    FileTree.walk_of_resolve hplace
  have hlast : (p.child name).steps.getLast? = some (.name name) := List.getLast?_concat
  have hfront : (p.child name).steps.dropLast = p.steps := List.dropLast_concat
  rw [FileTree.destination, hlast]
  dsimp only
  rw [hfront, hwalk]
  dsimp only
  rw [if_pos hdirectory]

/-- An entry of the directory may have the name: neither the name nor the path to it is too long. -/
def Fits (directory name : String) : Prop :=
  (join directory name).utf8ByteSize ≤ FilePath.maxPathBytes ∧
    name.utf8ByteSize ≤ FilePath.maxNameBytes

section Entry

variable {t : FileTree} {directory name : String} {place : Nat}
  (hplace : t.resolveString directory = .ok place) (hdirectory : t.isDirectoryAt place = true)
  (hname : ProperName name)

include hplace hdirectory hname

theorem destination_join (hfits : Fits directory name) :
    ∃ p, FilePath.ofString (join directory name) = .ok p ∧ p.slashed = false ∧
      t.destination p = .ok (some (place, name)) := by
  unfold FileTree.resolveString at hplace
  cases hread : FilePath.ofString directory with
  | error e =>
    rw [hread] at hplace
    cases hplace
  | ok p =>
    rw [hread] at hplace
    refine ⟨p.child name, ?_, rfl, ?_⟩
    · rw [ofString_join hread hname, if_neg (Nat.not_lt.mpr hfits.1)]
    · rw [destination_child hplace hdirectory, if_neg (Nat.not_lt.mpr hfits.2)]

theorem nameTooLong_join (hfits : ¬Fits directory name) :
    FilePath.ofString (join directory name) = .error .nameTooLong ∨
      ∃ p, FilePath.ofString (join directory name) = .ok p ∧
        t.destination p = .error .nameTooLong := by
  unfold FileTree.resolveString at hplace
  cases hread : FilePath.ofString directory with
  | error e =>
    rw [hread] at hplace
    cases hplace
  | ok p =>
    rw [hread] at hplace
    by_cases hpath : FilePath.maxPathBytes < (join directory name).utf8ByteSize
    · exact .inl ((ofString_join hread hname).trans (if_pos hpath))
    · have hlong : FilePath.maxNameBytes < name.utf8ByteSize :=
        Nat.not_le.mp fun hle => hfits ⟨Nat.not_lt.mp hpath, hle⟩
      refine .inr ⟨p.child name, (ofString_join hread hname).trans (if_neg hpath), ?_⟩
      rw [destination_child hplace hdirectory, if_pos hlong]

/-- A file of a directory is removed by its path. -/
theorem remove_join {found : Nat} (hfits : Fits directory name)
    (hfound : t.child? place name = some found) :
    t.remove (join directory name) =
      if t.isDirectoryAt found then .error .isDirectory else .ok (t.unlink place name) := by
  obtain ⟨p, hread, hslash, hentry⟩ := destination_join hplace hdirectory hname hfits
  rw [FileTree.remove, hread]
  dsimp only
  rw [hentry]
  dsimp only
  rw [hfound]
  dsimp only
  rw [hslash, if_neg Bool.false_ne_true]

theorem exists_remove_iff {found : Nat} (hfound : t.child? place name = some found) :
    (∃ t', t.remove (join directory name) = .ok t') ↔
      Fits directory name ∧ t.isDirectoryAt found = false := by
  by_cases hfits : Fits directory name
  · rw [remove_join hplace hdirectory hname hfits hfound]
    cases t.isDirectoryAt found with
    | true => exact ⟨nofun, nofun⟩
    | false => exact ⟨fun _ => ⟨hfits, rfl⟩, fun _ => ⟨_, rfl⟩⟩
  · refine ⟨fun ⟨t', h⟩ => ?_, fun h => absurd h.1 hfits⟩
    rw [FileTree.remove] at h
    rcases nameTooLong_join hplace hdirectory hname hfits with hread | ⟨p, hread, hentry⟩
    · rw [hread] at h
      cases h
    · rw [hread] at h
      dsimp only at h
      rw [hentry] at h
      cases h

end Entry

/-! ### Deleting the outdated -/

/-- The names of a directory without those of the given files. -/
def without (t : FileTree) (place : Nat) (names : List String) : FileTree :=
  t.setNames place ((t.names place).filter fun e => !names.contains e.1 || t.isDirectoryAt e.2)

theorem without_cons {t : FileTree} (h : t.Sound) {place : Nat}
    (hdirectory : t.isDirectoryAt place = true) {name : String} {found : Nat}
    (hfound : t.child? place name = some found) (names : List String) :
    without t place (name :: names) =
      if t.isDirectoryAt found then without t place names
      else without (t.unlink place name) place names := by
  have hplace : ∀ e ∈ t.names place, e.1 = name → e.2 = found := by
    rintro e he rfl
    exact Option.some.inj ((h.child?_eq_some_iff.mpr he).symm.trans hfound)
  cases hkind : t.isDirectoryAt found with
  | true =>
    rw [if_pos rfl, without, without]
    refine congrArg _ (List.filter_congr fun e he => ?_)
    by_cases hname : e.1 = name
    · rw [hplace e he hname, hkind, Bool.or_true, Bool.or_true]
    · rw [List.contains_cons, beq_eq_false_iff_ne.mpr hname, Bool.false_or]
  | false =>
    rw [if_neg Bool.false_ne_true, without, without, FileTree.unlink,
      FileTree.names_setNames hdirectory, FileTree.setNames_setNames, List.filter_filter]
    refine congrArg _ (List.filter_congr fun e he => ?_)
    rw [FileTree.isDirectoryAt_setNames, List.contains_cons]
    by_cases hname : e.1 = name
    · rw [hplace e he hname, hkind, hname, beq_self_eq_true, bne_self_eq_false, Bool.true_or,
        Bool.and_false]
      rfl
    · rw [beq_eq_false_iff_ne.mpr hname, bne_iff_ne.mpr hname, Bool.false_or, Bool.and_true]

theorem deleteAll_cons (t : FileTree) (directory n : String) (ns : List String) :
    deleteAll t directory (n :: ns) =
      match t.remove (join directory n) with
      | .ok t' => deleteAll t' directory ns
      | .error e =>
        ((deleteAll t directory ns).1, (n, e) :: (deleteAll t directory ns).2) := rfl

/-- Files are deleted and directories stay, whatever the order of the names. -/
theorem deleteAll_eq {t : FileTree} (h : t.Sound) {directory : String} {place : Nat}
    (hplace : t.resolveString directory = .ok place) (hdirectory : t.isDirectoryAt place = true)
    {names : List String} (hnodup : names.Nodup)
    (hnames : ∀ n ∈ names, ∃ found, t.child? place n = some found ∧
      (t.isDirectoryAt found = false → ∃ t', t.remove (join directory n) = .ok t')) :
    (deleteAll t directory names).1 = without t place names := by
  induction names generalizing t with
  | nil =>
    have hall : (t.names place).filter (fun e => !([] : List String).contains e.1 ||
        t.isDirectoryAt e.2) = t.names place := List.filter_eq_self.mpr fun _ _ => rfl
    rw [without, hall, FileTree.setNames_names]
    rfl
  | cons n ns ih =>
    obtain ⟨hn, hns⟩ := List.nodup_cons.mp hnodup
    obtain ⟨⟨found, hfound, hremove⟩, hlater⟩ := List.forall_mem_cons.mp hnames
    have hproper := (h place).proper _ (h.child?_eq_some_iff.mp hfound)
    have hiff := exists_remove_iff hplace hdirectory hproper hfound
    rw [without_cons h hdirectory hfound]
    cases hkind : t.isDirectoryAt found with
    | true =>
      cases hresult : t.remove (join directory n) with
      | ok t' => exact absurd hkind (Bool.eq_false_iff.mp (hiff.mp ⟨t', hresult⟩).2)
      | error e =>
        rw [deleteAll_cons, hresult, if_pos rfl]
        exact ih h hplace hdirectory hns hlater
    | false =>
      have hresult : t.remove (join directory n) = .ok (t.unlink place n) := by
        rw [remove_join hplace hdirectory hproper (hiff.mp (hremove hkind)).1 hfound, hkind,
          if_neg Bool.false_ne_true]
      have hways := h.keepsWays_unlink hfound hkind
      have hplace' := hways.resolveString hplace hdirectory
      have hdirectory' := hways.directory place hdirectory
      rw [deleteAll_cons, hresult, if_neg Bool.false_ne_true]
      refine ih (h.unlink place n) hplace' hdirectory' hns fun m hm => ?_
      obtain ⟨found', hfound', hremove'⟩ := hlater m hm
      have hne : m ≠ n := fun heq => hn (heq ▸ hm)
      have hchild := (h.child?_unlink_of_ne hdirectory hne).trans hfound'
      have hproper' := (h place).proper _ (h.child?_eq_some_iff.mp hfound')
      -- What can be removed at all can be removed after a file beside it.
      refine ⟨found', hchild, fun hkind' => ?_⟩
      rw [FileTree.isDirectoryAt_unlink] at hkind'
      obtain ⟨hfits, -⟩ :=
        (exists_remove_iff hplace hdirectory hproper' hfound').mp (hremove' hkind')
      exact (exists_remove_iff hplace' hdirectory' hproper' hchild).mpr
        ⟨hfits, (FileTree.isDirectoryAt_unlink t place n found').trans hkind'⟩

theorem outdated_nodup {entries : List (String × Node)} (h : (entries.map Prod.fst).Nodup) :
    (outdated entries).Nodup := by
  have hlogs : ((newestFirst (logs entries)).map Prod.fst).Nodup :=
    ((List.mergeSort_perm (logs entries) _).map _).nodup_iff.mpr
      (h.sublist (List.filter_sublist.map _))
  exact hlogs.sublist ((List.drop_sublist 1 _).map _)

/-- An entry stays unless it is a log, a file, and not the newest log. -/
def stays (entries : List (String × Node)) (c : String × Node) : Bool :=
  !isLogName c.1 || c.2.isDirectory ||
    (logs entries).all fun d => decide (d.2.modified ≤ c.2.modified)

theorem stays_of_not_log {entries : List (String × Node)} {c : String × Node}
    (h : isLogName c.1 = false) : stays entries c = true := by
  rw [stays, h]
  rfl

theorem stays_iff_of_log {entries : List (String × Node)} {c : String × Node}
    (h : isLogName c.1 = true) :
    stays entries c = true ↔
      c.2.isDirectory = true ∨ ∀ d ∈ logs entries, d.2.modified ≤ c.2.modified := by
  rw [stays, h, Bool.not_true, Bool.false_or, Bool.or_eq_true, List.all_eq_true]
  simp only [decide_eq_true_iff]

section Clean

variable {t : FileTree} (h : t.Sound) {directory : String} {place : Nat}
  (hplace : t.resolveString directory = .ok place) (hdirectory : t.isDirectoryAt place = true)
  (htimes : DistinctTimes (logs (t.children place)))

include h htimes

theorem mem_outdated_children {c : String × Node} (hc : c ∈ t.children place) :
    c.1 ∈ outdated (t.children place) ↔
      isLogName c.1 = true ∧ ∃ d ∈ logs (t.children place), c.2.modified < d.2.modified := by
  rw [mem_outdated htimes]
  constructor
  · rintro ⟨c', hc', hname, hnewer⟩
    obtain ⟨hmem, hlog⟩ := mem_logs.mp hc'
    cases h.eq_of_name_eq hmem hc hname
    exact ⟨hlog, hnewer⟩
  · rintro ⟨hlog, hnewer⟩
    exact ⟨c, mem_logs.mpr ⟨hc, hlog⟩, rfl, hnewer⟩

include hdirectory

theorem children_without :
    (without t place (outdated (t.children place))).children place =
      (t.children place).filter (stays (t.children place)) := by
  refine h.children_setNames hdirectory fun e he node hnode => ?_
  have hc : (e.1, node) ∈ t.children place := FileTree.mem_children.mpr ⟨e.2, he, hnode⟩
  have hiff := mem_outdated_children h htimes hc
  rw [FileTree.isDirectoryAt_of_node? hnode, Bool.eq_iff_iff, Bool.or_eq_true, Bool.not_eq_true',
    ← Bool.not_eq_true, List.contains_iff_mem, hiff]
  cases hlog : isLogName e.1 with
  | false =>
    rw [stays_of_not_log (c := (e.1, node)) hlog]
    simp
  | true =>
    rw [stays_iff_of_log (c := (e.1, node)) hlog]
    simp [or_comm]

include hplace

/-- A cleaning comes to its end and takes away what is outdated and no directory. -/
theorem clean_eq (hremove : ∀ c ∈ logFiles (t.children place),
      ∃ t', t.remove (join directory c.1) = .ok t') :
    ∃ failures, clean t directory =
      .ok (without t place (outdated (t.children place)), failures) := by
  have hlist := FileTree.list_eq_ok_iff.mpr ⟨place, hplace, hdirectory, rfl⟩
  have hnodup := outdated_nodup (h.names_children_nodup place)
  have hnames : ∀ n ∈ outdated (t.children place), ∃ found, t.child? place n = some found ∧
      (t.isDirectoryAt found = false → ∃ t', t.remove (join directory n) = .ok t') := by
    intro n hn
    obtain ⟨c, hc, rfl, -⟩ := (mem_outdated htimes).mp hn
    obtain ⟨found, hfound, hnode⟩ := h.child?_of_mem (mem_logs.mp hc).1
    refine ⟨found, hfound, fun hkind => hremove c (mem_logFiles.mpr ⟨hc, ?_⟩)⟩
    rwa [FileTree.isDirectoryAt_of_node? hnode] at hkind
  refine ⟨(deleteAll t directory (outdated (t.children place))).2, ?_⟩
  rw [clean, hlist]
  exact congrArg Except.ok (Prod.ext (deleteAll_eq h hplace hdirectory hnodup hnames) rfl)

end Clean

/-- What a cleaning leaves is a sound tree in which every way to a directory is still open. -/
theorem sound_without {t : FileTree} (h : t.Sound) (place : Nat) (names : List String) :
    (without t place names).Sound :=
  h.setNames ((h place).filter _)

theorem keepsWays_without {t : FileTree} (h : t.Sound) (place : Nat) (names : List String) :
    KeepsWays t (without t place names) :=
  h.keepsWays_filter fun _ _ hentry => Bool.or_eq_true_iff.mpr (.inr hentry)

end LogFile
end RoutingDump
