import RoutingDump.Proofs.LogFile.Cleaning

/-!
# Rotation

Before a log file is started its directory is cleaned. The newest log is kept, and of the files
that are logs no other. A directory may bear the name of a log as well. It is never deleted, but it
can be the newest, and then no file is kept for it.
-/

namespace RoutingDump
namespace LogFile

open FilePath (ProperName)
open FileTree (KeepsWays)

/-! ### Opening a log file -/

/-- The bytes under a name among some entries. -/
def written (n : String) (entries : List (String × Node)) : Array UInt8 :=
  match entries.lookup n with
  | some (.file bytes _) => bytes
  | _ => #[]

/-- A file with the name can be opened among the entries: it fits and no directory is called so. -/
def Openable (directory n : String) (entries : List (String × Node)) : Prop :=
  Fits directory n ∧ ∀ c ∈ entries, c.1 = n → c.2.isDirectory = false

/-- The entries after a file was opened to be written to its end. -/
def AfterOpening (clock : Int) (n : String) (before after : List (String × Node)) : Prop :=
  ∀ c, c ∈ after ↔ c ∈ before ∧ c.1 ≠ n ∨ c = (n, .file (written n before) clock)

section Opening

variable {t : FileTree} (h : t.Sound) {directory n : String} {place : Nat}
  (hplace : t.resolveString directory = .ok place) (hdirectory : t.isDirectoryAt place = true)
  (hname : ProperName n)

include hplace hdirectory hname

theorem append_join (hfits : Fits directory n) :
    t.append (join directory n) [] =
      match t.child? place n with
      | none => .ok (t.add place n (.file #[] t.clock))
      | some found =>
        match t.node? found with
        | some (.file bytes _) => .ok (t.setNode found (.file bytes t.clock))
        | _ => .error .isDirectory := by
  obtain ⟨p, hread, -, hentry⟩ := destination_join hplace hdirectory hname hfits
  rw [FileTree.append, FileTree.change, hread]
  dsimp only
  rw [hentry]
  dsimp only
  cases t.child? place n with
  | none => rfl
  | some found =>
    dsimp only
    cases t.node? found with
    | none => rfl
    | some node =>
      cases node with
      | directory parent names modified => rfl
      | file bytes modified =>
        have hbytes : bytes ++ ([] : List UInt8).toArray = bytes := Array.append_empty
        dsimp only
        rw [hbytes]

theorem append_join_of_not_fits (hfits : ¬Fits directory n) :
    t.append (join directory n) [] = .error .nameTooLong := by
  rw [FileTree.append, FileTree.change]
  rcases nameTooLong_join hplace hdirectory hname hfits with hread | ⟨p, hread, hentry⟩
  · rw [hread]
  · rw [hread]
    dsimp only
    rw [hentry]

include h

/-- Opening either fails or leaves all entries with other names as they are. -/
theorem append_cases :
    (∃ t', t.append (join directory n) [] = .ok t' ∧ Openable directory n (t.children place) ∧
        ∃ after, t'.list directory = .ok after ∧
          AfterOpening t.clock n (t.children place) after) ∨
      ((∃ e, t.append (join directory n) [] = .error e) ∧
        ¬Openable directory n (t.children place)) := by
  by_cases hfits : Fits directory n
  case neg =>
    exact .inr ⟨⟨_, append_join_of_not_fits hplace hdirectory hname hfits⟩, fun h => hfits h.1⟩
  have happend := append_join hplace hdirectory hname hfits
  have hlist {t' : FileTree} (hways : KeepsWays t t') :
      t'.list directory = .ok (t'.children place) :=
    FileTree.list_eq_ok_iff.mpr
      ⟨place, hways.resolveString hplace hdirectory, hways.directory place hdirectory, rfl⟩
  cases hfound : t.child? place n with
  | none =>
    rw [hfound] at happend
    have hwritten : written n (t.children place) = #[] := by
      rw [written, h.lookup_children, hfound]
      rfl
    refine .inl ⟨_, happend, ⟨hfits, fun c hc hcn => ?_⟩, _,
      hlist (FileTree.keepsWays_add rfl n), fun c => ?_⟩
    · obtain ⟨f, hf, -⟩ := h.child?_of_mem hc
      rw [hcn, hfound] at hf
      cases hf
    · rw [h.mem_children_add hdirectory hfound, hwritten]
  | some found =>
    rw [hfound] at happend
    cases hnode : t.node? found with
    | none =>
      have hlt := ((h place).later _ (h.child?_eq_some_iff.mp hfound)).2
      exact absurd hlt (Nat.not_lt.mpr (FileTree.node?_eq_none_iff.mp hnode))
    | some node =>
      have hmem : (n, node) ∈ t.children place :=
        FileTree.mem_children.mpr ⟨found, h.child?_eq_some_iff.mp hfound, hnode⟩
      simp only [hnode] at happend
      cases node with
      | directory parent names modified =>
        exact .inr ⟨⟨_, happend⟩, fun hopen => nomatch hopen.2 _ hmem rfl⟩
      | file bytes modified =>
        have hwritten : written n (t.children place) = bytes := by
          rw [written, h.lookup_children, hfound, Option.bind_some, hnode]
        refine .inl ⟨_, happend, ⟨hfits, fun c hc hcn => ?_⟩, _,
          hlist (FileTree.keepsWays_setNode hnode), fun c => ?_⟩
        · rw [h.eq_of_name_eq hc hmem hcn]
          rfl
        · rw [h.mem_children_setNode hfound hnode, hwritten]

end Opening

/-! ### Names of new logs -/

theorem toList_name (stamp : String) :
    (name stamp).toList = "dump_reader_".toList ++ stamp.toList ++ ".log".toList := by
  rw [← String.toList_append, ← String.toList_append]
  rfl

/-- A new log file is a log. -/
theorem isLogName_name (stamp : String) : isLogName (name stamp) = true := by
  refine isLogName_iff.mpr ⟨"dump_reader_".toList ++ stamp.toList, ?_, toList_name stamp⟩
  exact List.append_ne_nil_of_left_ne_nil (by decide) _

theorem properName_name {stamp : String} (hslash : '/' ∉ stamp.toList)
    (hnul : Char.ofNat 0 ∉ stamp.toList) : ProperName (name stamp) := by
  have hlong : 2 < (name stamp).toList.length := by
    rw [toList_name, List.length_append, List.length_append]
    exact Nat.lt_of_lt_of_le (by decide : 2 < "dump_reader_".toList.length)
      (Nat.le_trans (Nat.le_add_right _ _) (Nat.le_add_right _ _))
  have hmem {c : Char} (hc : c ∉ "dump_reader_".toList ∧ c ∉ ".log".toList)
      (hstamp : c ∉ stamp.toList) : c ∉ (name stamp).toList := by
    rw [toList_name, List.mem_append, List.mem_append]
    rintro ((h | h) | h)
    · exact hc.1 h
    · exact hstamp h
    · exact hc.2 h
  constructor
  case some | notHere | notUp =>
    intro h
    rw [h] at hlong
    exact absurd hlong (by decide)
  case noSlash => exact hmem (by decide) hslash
  case noNul => exact hmem (by decide) hnul

/-! ### The newest log -/

/-- What a cleaning leaves. -/
def kept (entries : List (String × Node)) : List (String × Node) := entries.filter (stays entries)

/-- No log was changed later. -/
def Newest (entries : List (String × Node)) (c : String × Node) : Prop :=
  ∀ d ∈ logs entries, d.2.modified ≤ c.2.modified

theorem mem_logFiles_kept {entries : List (String × Node)} {c : String × Node} :
    c ∈ logFiles (kept entries) ↔ c ∈ logFiles entries ∧ Newest entries c := by
  rw [mem_logFiles, mem_logFiles, mem_logs, mem_logs, kept, List.mem_filter]
  constructor
  · rintro ⟨⟨⟨hmem, hstays⟩, hlog⟩, hkind⟩
    refine ⟨⟨⟨hmem, hlog⟩, hkind⟩, ?_⟩
    rcases (stays_iff_of_log hlog).mp hstays with hdirectory | hnewest
    · exact absurd hdirectory (Bool.eq_false_iff.mp hkind)
    · exact hnewest
  · rintro ⟨⟨⟨hmem, hlog⟩, hkind⟩, hnewest⟩
    exact ⟨⟨⟨hmem, (stays_iff_of_log hlog).mpr (.inr hnewest)⟩, hlog⟩, hkind⟩

theorem eq_of_newest {entries : List (String × Node)} (htimes : DistinctTimes (logs entries))
    {c d : String × Node} (hc : c ∈ logs entries) (hd : d ∈ logs entries)
    (hnewest : Newest entries c) (hnewest' : Newest entries d) : c = d :=
  List.inj_on_of_nodup_map htimes hc hd (Int.le_antisymm (hnewest' c hc) (hnewest d hd))

theorem logFiles_kept_eq_singleton_iff {entries : List (String × Node)}
    (hnodup : (entries.map Prod.fst).Nodup) (htimes : DistinctTimes (logs entries))
    {c : String × Node} :
    logFiles (kept entries) = [c] ↔ c ∈ logFiles entries ∧ Newest entries c := by
  rw [← mem_logFiles_kept]
  constructor
  · intro h
    rw [h]
    exact List.mem_cons_self
  · intro hc
    have hkept : (logFiles (kept entries)).Nodup :=
      (((List.Nodup.of_map _ hnodup).filter _).filter _).filter _
    refine List.perm_singleton.mp
      ((List.perm_ext_iff_of_nodup hkept (List.nodup_singleton c)).mpr fun d => ?_)
    rw [List.mem_singleton]
    constructor
    · intro hd
      obtain ⟨hfile, hnewest⟩ := mem_logFiles_kept.mp hd
      obtain ⟨hfile', hnewest'⟩ := mem_logFiles_kept.mp hc
      exact eq_of_newest htimes (mem_logFiles.mp hfile).1 (mem_logFiles.mp hfile').1 hnewest
        hnewest'
    · rintro rfl
      exact hc

theorem logFiles_kept_eq_nil_iff {entries : List (String × Node)} :
    logFiles (kept entries) = [] ↔
      ∀ c ∈ logFiles entries, ∃ d ∈ logs entries, c.2.modified < d.2.modified := by
  rw [List.eq_nil_iff_forall_not_mem]
  refine forall_congr' fun c => ?_
  rw [mem_logFiles_kept, not_and, Newest]
  simp only [not_forall, Int.not_le, exists_prop]

/-! ### Cleaning and starting a log -/

theorem setup_of_clean {t t' : FileTree} {directory : String} {place : Nat}
    {failures : List (String × IoError)} (hplace : t.resolveString directory = .ok place)
    (hclean : clean t directory = .ok (t', failures)) (stamp : String) :
    (∀ e, t'.append (join directory (name stamp)) [] = .error e →
        (setup t directory stamp).path = .error e) ∧
      ∀ t'', t'.append (join directory (name stamp)) [] = .ok t'' →
        (setup t directory stamp).path = .ok (some (join directory (name stamp))) ∧
          (setup t directory stamp).tree = t'' := by
  have hexists : t.exists? directory = true := by
    rw [FileTree.exists?, hplace]
    rfl
  rw [setup, if_pos hexists]
  dsimp only
  rw [hclean]
  dsimp only
  constructor
  · intro e happend
    rw [happend]
  · intro t'' happend
    rw [happend]
    exact ⟨rfl, rfl⟩

/-- What becomes of the logs of a directory. -/
structure Rotated (t : FileTree) (directory : String) (entries : List (String × Node)) : Prop where
  /-- A cleaning comes to its end, and nothing outside the directory is different. -/
  cleaned : ∃ t' failures, clean t directory = .ok (t', failures) ∧
    t'.list directory = .ok (kept entries) ∧
    ∀ place, t.resolveString directory ≠ .ok place → t'.node? place = t.node? place
  /-- What is no log or no file stays as it is. -/
  others : ∀ c ∈ entries, isLogName c.1 = false ∨ c.2.isDirectory = true → c ∈ kept entries
  /-- One log file is left if it is the newest of all logs, directories included. -/
  one_iff : ∀ c, logFiles (kept entries) = [c] ↔ c ∈ logFiles entries ∧ Newest entries c
  /-- No log file is left if each has a newer log beside it. -/
  none_iff : logFiles (kept entries) = [] ↔
    ∀ c ∈ logFiles entries, ∃ d ∈ logs entries, c.2.modified < d.2.modified
  /-- A log that is started stands beside what a cleaning leaves. -/
  started : ∀ stamp, '/' ∉ stamp.toList → Char.ofNat 0 ∉ stamp.toList →
    Openable directory (name stamp) (kept entries) →
    (setup t directory stamp).path = .ok (some (join directory (name stamp))) ∧
      ∃ after, (setup t directory stamp).tree.list directory = .ok after ∧
        AfterOpening t.clock (name stamp) (kept entries) after ∧
        (name stamp, .file (written (name stamp) (kept entries)) t.clock) ∈ logFiles after ∧
        ∀ c ∈ logFiles after, c.1 = name stamp ∨ c ∈ logFiles entries ∧ Newest entries c
  /-- A log that cannot be opened is not started. -/
  refused : ∀ stamp, '/' ∉ stamp.toList → Char.ofNat 0 ∉ stamp.toList →
    ¬Openable directory (name stamp) (kept entries) →
    ∃ e, (setup t directory stamp).path = .error e

/-- A directory is rotated if its logs were changed at different times and its log files can be
removed. -/
theorem rotated {t : FileTree} {directory : String} {entries : List (String × Node)}
    (h : t.Sound) (hlist : t.list directory = .ok entries)
    (htimes : DistinctTimes (logs entries))
    (hremove : ∀ c ∈ logFiles entries, ∃ t', t.remove (join directory c.1) = .ok t') :
    Rotated t directory entries := by
  obtain ⟨place, hplace, hdirectory, rfl⟩ := FileTree.list_eq_ok_iff.mp hlist
  have hnodup := h.names_children_nodup place
  obtain ⟨failures, hclean⟩ := clean_eq h hplace hdirectory htimes hremove
  have hchildren := children_without h hdirectory htimes
  generalize hcleaned : without t place (outdated (t.children place)) = t' at hclean hchildren
  have hways : KeepsWays t t' := hcleaned ▸ keepsWays_without h place _
  have hsound : t'.Sound := hcleaned ▸ sound_without h place _
  have hplace' := hways.resolveString hplace hdirectory
  have hdirectory' := hways.directory place hdirectory
  have hclock : t'.clock = t.clock := hcleaned ▸ FileTree.clock_setNames
  have hsetup := setup_of_clean hplace hclean
  have hopening (stamp : String) (hslash : '/' ∉ stamp.toList)
      (hnul : Char.ofNat 0 ∉ stamp.toList) :=
    append_cases hsound hplace' hdirectory' (properName_name hslash hnul)
  rw [hchildren, hclock] at hopening
  constructor
  case cleaned =>
    refine ⟨t', failures, hclean, ?_, fun other hother => ?_⟩
    · exact FileTree.list_eq_ok_iff.mpr ⟨place, hplace', hdirectory', hchildren.symm⟩
    · rw [← hcleaned]
      exact FileTree.node?_setNames_of_ne fun heq => hother (heq ▸ hplace)
  case others =>
    rintro c hc hother
    refine List.mem_filter.mpr ⟨hc, ?_⟩
    cases hlog : isLogName c.1 with
    | false => exact stays_of_not_log hlog
    | true =>
      refine (stays_iff_of_log hlog).mpr (.inl ?_)
      rcases hother with hother | hother
      · cases hlog.symm.trans hother
      · exact hother
  case one_iff => exact fun c => logFiles_kept_eq_singleton_iff hnodup htimes
  case none_iff => exact logFiles_kept_eq_nil_iff
  case started =>
    intro stamp hslash hnul hopen
    rcases hopening stamp hslash hnul with ⟨t'', happend, -, after, hafter, hentries⟩ | ⟨-, hnot⟩
    · obtain ⟨hpath, htree⟩ := (hsetup stamp).2 t'' happend
      refine ⟨hpath, after, htree ▸ hafter, hentries, ?_, fun c hc => ?_⟩
      · have hnew := (hentries _).mpr (.inr rfl)
        exact mem_logFiles.mpr ⟨mem_logs.mpr ⟨hnew, isLogName_name stamp⟩, rfl⟩
      · obtain ⟨hlog, hkind⟩ := mem_logFiles.mp hc
        rcases (hentries c).mp (mem_logs.mp hlog).1 with ⟨hkept, -⟩ | rfl
        · exact .inr (mem_logFiles_kept.mp
            (mem_logFiles.mpr ⟨mem_logs.mpr ⟨hkept, (mem_logs.mp hlog).2⟩, hkind⟩))
        · exact .inl rfl
    · exact absurd hopen hnot
  case refused =>
    intro stamp hslash hnul hnot
    rcases hopening stamp hslash hnul with ⟨-, -, hopen, -⟩ | ⟨⟨e, happend⟩, -⟩
    · exact absurd hopen hnot
    · exact ⟨e, (hsetup stamp).1 e happend⟩

/-- A directory with the extension that is older than the newest log file. -/
theorem rotated_older_directory :
    let t := (((((FileTree.empty 9).add 0 "logs" (.directory 0 [] 0)).add 1 "old.log"
      (.file #[1] 1)).add 1 "new.log" (.file #[2] 5)).add 1 "notes.txt" (.file #[3] 7)).add 1
      "more.log" (.directory 1 [] 3)
    let entries : List (String × Node) := [("old.log", .file #[1] 1), ("new.log", .file #[2] 5),
      ("notes.txt", .file #[3] 7), ("more.log", .directory 1 [] 3)]
    Rotated t "logs" entries ∧ logFiles (kept entries) = [("new.log", .file #[2] 5)] := by
  intro t entries
  have hfiles : logFiles entries = [("old.log", .file #[1] 1), ("new.log", .file #[2] 5)] := by
    decide +kernel
  have hremove : ∀ c ∈ logFiles entries, ∃ t', t.remove (join "logs" c.1) = .ok t' := by
    rw [hfiles]
    exact List.forall_mem_cons.mpr ⟨⟨_, rfl⟩, List.forall_mem_cons.mpr ⟨⟨_, rfl⟩, nofun⟩⟩
  have hsound : t.Sound := by decide +kernel
  have htimes : ((logs entries).map fun c => c.2.modified).Nodup := by decide +kernel
  exact ⟨rotated hsound rfl htimes hremove, by decide +kernel⟩

/-- A directory with the extension that is newer than the only log file: the file is deleted. -/
theorem rotated_newer_directory :
    let t := (((FileTree.empty 9).add 0 "logs" (.directory 0 [] 0)).add 1 "gone.log"
      (.file #[1] 100)).add 1 "dir.log" (.directory 1 [] 5000)
    let entries : List (String × Node) :=
      [("gone.log", .file #[1] 100), ("dir.log", .directory 1 [] 5000)]
    (t.Sound ∧ t.list "logs" = .ok entries ∧ DistinctTimes entries ∧
        (∀ c ∈ logFiles entries, ∃ t', t.remove (join "logs" c.1) = .ok t') ∧
        logFiles entries = [("gone.log", .file #[1] 100)]) ∧
      ∃ t' failures, clean t "logs" = .ok (t', failures) ∧
        t'.list "logs" = .ok [("dir.log", .directory 1 [] 5000)] := by
  intro t entries
  have hfiles : logFiles entries = [("gone.log", .file #[1] 100)] := by decide +kernel
  have hremove : ∀ c ∈ logFiles entries, ∃ t', t.remove (join "logs" c.1) = .ok t' := by
    rw [hfiles]
    exact List.forall_mem_cons.mpr ⟨⟨_, rfl⟩, nofun⟩
  have hsound : t.Sound := by decide +kernel
  have htimes : (entries.map fun c => c.2.modified).Nodup := by decide +kernel
  have hlogs : ((logs entries).map fun c => c.2.modified).Nodup := by decide +kernel
  have hplace : t.resolveString "logs" = .ok 1 := rfl
  have hkept : kept entries = [("dir.log", .directory 1 [] 5000)] := by decide +kernel
  obtain ⟨failures, hclean⟩ := clean_eq hsound hplace rfl hlogs hremove
  have hways := keepsWays_without hsound 1 (outdated (t.children 1))
  refine ⟨⟨hsound, rfl, htimes, hremove, hfiles⟩, _, failures, hclean, ?_⟩
  have hchildren : (without t 1 (outdated (t.children 1))).children 1 = kept (t.children 1) :=
    children_without hsound rfl hlogs
  exact FileTree.list_eq_ok_iff.mpr ⟨1, hways.resolveString hplace rfl, hways.directory 1 rfl,
    (hchildren.trans hkept).symm⟩

end LogFile
end RoutingDump
