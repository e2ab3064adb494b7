import RoutingDump.CommandLine.Run
import RoutingDump.Proofs.Ascii.Ending

/-!
# What a run prints

With its log off, the program prints the records that a reader hands out, up to a limit, and its
exit code says whether the pull behind them found a failure. A session looks at the limit in front
of each pull, so how the dump ends counts only if the limit leaves a pull for it.
-/

namespace RoutingDump

namespace Pull

variable {P : Type}

/-- Whether a pull tells of a failure: of the open or of a read. -/
def fails : Pull P → Bool
  | .endOfStream (some _) | .error _ => true
  | .ok _ | .again | .endOfStream none => false

/-- Whether a session ends behind a pull. -/
def ends : Pull P → Bool
  | .endOfStream _ | .error _ => true
  | .ok _ | .again => false

end Pull

theorem Reader.pulls_succ {ω σ P : Type} (F : Format ω σ P) (r : Reader ω σ P) (n : Nat) :
    r.pulls F (n + 1) = (r.next F).value.1 :: (r.next F).value.2.pulls F n := by
  rw [pulls, value_calls_next]
  rfl

/-- What the pulls of a reader come to: `records`, and then `final`, which is no record and ends a
session. A dump that did not open comes to nothing but the record that says so. -/
structure Reader.Yields {ω σ P : Type} (F : Format ω σ P) (r : Reader ω σ P)
    (records : List (Record P)) (final : Pull P) : Prop where
  pulls_eq : r.pulls F (records.length + 1) = records.map .ok ++ [final]
  ends : final.ends = true
  opened : (r.openWait F).value.1 = .ok () ∧ final.record? = none ∨
    (∃ e, (r.openWait F).value.1 = .error e) ∧ records = [] ∧
      final = .endOfStream (some (.ofFailedOpen r.resource))

namespace CommandLine

/-- The first elements, as many as a limit allows. -/
def upTo {α : Type} (limit : Option Nat) (l : List α) : List α :=
  match limit with
  | none => l
  | some m => l.take m

/-- Whether a limit allows more than `n`. -/
def exceeds (limit : Option Nat) (n : Nat) : Bool :=
  match limit with
  | none => true
  | some m => n < m

theorem exceeds_succ (m n : Nat) : exceeds (some (m + 1)) (n + 1) = exceeds (some m) n := by
  simp [exceeds]

/-- The lines of some records. -/
def recordLines (rs : List (Record String)) : String :=
  String.join (rs.map fun r => recordLine r ++ "\n")

def Output.record? : Output → Option (Record String)
  | .record r => some r
  | .notice _ => none

/-- The records among outputs. -/
def recordsOf (outputs : List Output) : List (Record String) := outputs.filterMap Output.record?

theorem recordsOf_append (os ps : List Output) :
    recordsOf (os ++ ps) = recordsOf os ++ recordsOf ps := List.filterMap_append

theorem recordsOf_notices (ns : List Notice) : recordsOf (ns.map .notice) = [] := by
  rw [recordsOf, List.filterMap_map]
  exact List.filterMap_eq_nil_iff.mpr fun n _ => rfl

/-- With the log off nothing but records is printed. -/
theorem stdoutText_off (stamp : String) (outputs : List Output) :
    stdoutText .off stamp outputs = recordLines (recordsOf outputs) := by
  rw [stdoutText, recordLines]
  congr 1
  induction outputs with
  | nil => rfl
  | cons o os ih =>
    cases o with
    | record r => exact congrArg (_ :: ·) ih
    | notice n => exact ih

namespace Session

variable {ω : Type} {s : Session ω}

theorem recordsOf_notices (es : List (Event String)) : recordsOf (notices es) = [] :=
  CommandLine.recordsOf_notices _

/-- How many more records a session prints. -/
def left (s : Session ω) : Option Nat := s.limit.map (· - s.printed)

theorem full_iff : s.full = true ↔ s.left = some 0 := by
  unfold full left
  cases s.limit with
  | none => simp
  | some m => simp [Nat.sub_eq_zero_iff_le]

theorem step_of_full (h : s.full = true) :
    recordsOf s.step.1 = [] ∧ s.step.2 = .finished .success := by
  rw [step, if_pos h]
  exact ⟨recordsOf_notices _, rfl⟩

theorem step_of_ok {record : Record String} (h : ¬ s.full = true)
    (hpull : (s.reader.next s.format).value.1 = .ok record) :
    recordsOf s.step.1 = [record] ∧
      s.step.2 = .more
        { s with reader := (s.reader.next s.format).value.2, printed := s.printed + 1 } := by
  rw [step, if_neg h]
  generalize s.reader.next s.format = t at hpull ⊢
  obtain ⟨events, pull, reader⟩ := t
  dsimp only at hpull ⊢
  subst hpull
  refine ⟨?_, rfl⟩
  rw [recordsOf_append, recordsOf_notices]
  rfl

theorem step_of_end (h : ¬ s.full = true)
    (hends : (s.reader.next s.format).value.1.ends = true) :
    let pull := (s.reader.next s.format).value.1
    recordsOf s.step.1 = pull.record?.toList ∧
      s.step.2 = .finished (if pull.fails then .failure else .success) := by
  rw [step, if_neg h]
  generalize s.reader.next s.format = t at hends ⊢
  obtain ⟨events, pull, reader⟩ := t
  dsimp only at hends ⊢
  cases pull with
  | ok record => cases hends
  | again => cases hends
  | endOfStream failure =>
    cases failure with
    | none =>
      refine ⟨?_, rfl⟩
      simp only [finish, recordsOf_append, recordsOf_notices]
      rfl
    | some record =>
      refine ⟨?_, rfl⟩
      simp only [finish, recordsOf_append, recordsOf_notices]
      rfl
  | error e =>
    refine ⟨?_, rfl⟩
    simp only [finish, recordsOf_append, recordsOf_notices]
    rfl

theorem run_of_finished {code : ExitCode} (h : s.step.2 = .finished code) (n : Nat) :
    s.run (n + 1) = s.step := by
  rw [run]
  generalize s.step = t at h ⊢
  obtain ⟨outputs, progress⟩ := t
  cases h
  rfl

theorem run_of_more {s' : Session ω} (h : s.step.2 = .more s') (n : Nat) :
    s.run (n + 1) = (s.step.1 ++ (s'.run n).1, (s'.run n).2) := by
  rw [run]
  generalize s.step = t at h ⊢
  obtain ⟨outputs, progress⟩ := t
  cases h
  rfl

theorem run_of_full (h : s.full = true) (n : Nat) :
    recordsOf (s.run (n + 1)).1 = [] ∧ (s.run (n + 1)).2.exit? = some .success := by
  obtain ⟨hrecords, hfinished⟩ := step_of_full h
  rw [run_of_finished hfinished, hrecords, hfinished]
  exact ⟨rfl, rfl⟩

/-- A session that is not full has room for a record, and for one less behind it. -/
theorem left_of_room (h : ¬ s.full = true) (reader : Reader ω (Ascii.Decoder OpenFile) String) :
    let next := { s with reader := reader, printed := s.printed + 1 }
    s.left = none ∧ next.left = none ∨ ∃ m, s.left = some (m + 1) ∧ next.left = some m := by
  unfold full at h
  unfold left
  cases hlimit : s.limit with
  | none => exact .inl ⟨rfl, rfl⟩
  | some limit =>
    rw [hlimit, decide_eq_true_eq] at h
    have hleft : limit - s.printed = limit - (s.printed + 1) + 1 := by omega
    exact .inr ⟨limit - (s.printed + 1), congrArg some hleft, rfl⟩

/-- The induction is on the records still to come; each one takes a step and one off the limit. -/
theorem run_of_pulls {records : List (Record String)} {final : Pull String} {steps : Nat}
    (hpulls : s.reader.pulls s.format (records.length + 1) = records.map .ok ++ [final])
    (hends : final.ends = true) (hsteps : records.length < steps) :
    recordsOf (s.run steps).1 =
        upTo s.left records ++
          (if exceeds s.left records.length then final.record?.toList else []) ∧
      (s.run steps).2.exit? =
        some (if exceeds s.left records.length && final.fails then .failure else .success) := by
  induction records generalizing s steps with
  | nil =>
    obtain ⟨n, rfl⟩ : ∃ n, steps = n + 1 := ⟨steps - 1, by omega⟩
    by_cases hfull : s.full = true
    · rw [full_iff.mp hfull]
      exact run_of_full hfull n
    · rw [Reader.pulls_succ] at hpulls
      obtain ⟨hpull, -⟩ := List.cons.inj hpulls
      obtain ⟨hrecords, hfinished⟩ := step_of_end hfull (hpull ▸ hends)
      rw [hpull] at hrecords hfinished
      rw [run_of_finished hfinished, hrecords, hfinished]
      rcases left_of_room hfull s.reader with ⟨hleft, -⟩ | ⟨m, hleft, -⟩ <;> rw [hleft] <;>
        exact ⟨rfl, rfl⟩
  | cons record rs ih =>
    obtain ⟨n, rfl⟩ : ∃ n, steps = n + 1 := ⟨steps - 1, by omega⟩
    by_cases hfull : s.full = true
    · rw [full_iff.mp hfull]
      exact run_of_full hfull n
    · rw [Reader.pulls_succ] at hpulls
      obtain ⟨hpull, hlater⟩ := List.cons.inj hpulls
      obtain ⟨hrecords, hmore⟩ := step_of_ok hfull hpull
      have hrun := ih (s := { s with
        reader := (s.reader.next s.format).value.2, printed := s.printed + 1 }) hlater
        (Nat.lt_of_succ_lt_succ hsteps)
      rw [run_of_more hmore, recordsOf_append, hrecords, hrun.1, hrun.2]
      rcases left_of_room hfull (s.reader.next s.format).value.2 with
          ⟨hleft, hnext⟩ | ⟨m, hleft, hnext⟩
      · rw [hleft, hnext]
        exact ⟨rfl, rfl⟩
      · rw [hleft, hnext, List.length_cons, exceeds_succ]
        exact ⟨rfl, rfl⟩

end Session

/-! ### Runs -/

/-- A file that opens has fewer bytes than a session has steps for it. -/
theorem length_unread_lt {t : FileTree} {path : String} {f : OpenFile}
    (h : t.openFile (Ascii.pathOf path) = .ok f) : f.unread.length + 1 < pullBound t path := by
  unfold FileTree.openFile at h
  unfold pullBound FileTree.read
  cases hplace : t.resolveString (Ascii.pathOf path) with
  | error e =>
    rw [hplace] at h
    cases h
  | ok place =>
    rw [hplace] at h
    cases h
    dsimp only
    unfold OpenFile.unread OpenFile.unfetched FileTree.fileAt? FileTree.isDirectoryAt
    cases hnode : t.node? place with
    | none => exact Nat.succ_lt_succ (Nat.zero_lt_succ _)
    | some node =>
      cases node with
      | file bytes modified =>
        show (t.content place).length + 1 < (t.content place).length + 3
        omega
      | directory => exact Nat.succ_lt_succ (Nat.zero_lt_succ _)

namespace Job

variable {j : Job} {env : Environment} {t : FileTree} {stamp : Stamp}

/-- The job with another limit. -/
def limited (j : Job) (limit : Option Nat) : Job :=
  { j with arguments := { j.arguments with maxRecords := limit } }

theorem run_of_configured {path : Option String} {c : Configuration} (hoff : j.verbosity = .off)
    (hlog : (j.log t stamp.inName).path = .ok path)
    (hconfigured : (j.configure env (j.log t stamp.inName).tree).2 = .ok c) :
    let tree := (j.log t stamp.inName).tree
    let ran := (j.session c tree).run (pullBound tree j.path)
    (j.run env t stamp).stdout = recordLines (recordsOf ran.1) ∧
      (j.run env t stamp).exit = ran.2.exit? := by
  unfold run
  generalize j.log t stamp.inName = log at hlog hconfigured ⊢
  dsimp only
  rw [hlog]
  dsimp only
  rw [hconfigured]
  dsimp only
  refine ⟨?_, rfl⟩
  rw [hoff, stdoutText_off, recordsOf_append, recordsOf_append, recordsOf_notices]
  rfl

/-- A finite dump yields its records and its end before the session has used up its steps. -/
theorem exists_yields (hfinite : j.arguments.live = false) (policy : RetryPolicy) (t : FileTree) :
    ∃ records final, records.length < pullBound t j.path ∧
      (Reader.start j.resource policy t).Yields (Ascii.fileFormat j.resource j.filters) records
        final := by
  cases hopen : t.openFile (Ascii.pathOf j.resource.url) with
  | error e =>
    obtain ⟨hwait, hpulls⟩ := Reader.pulls_of_unopened j.filters policy hopen
    refine ⟨[], _, ?_, hpulls, rfl, .inr ⟨⟨_, hwait⟩, rfl, rfl⟩⟩
    unfold pullBound
    split <;> exact Nat.zero_lt_succ _
  | ok f =>
    have hlive : j.resource.isLive = false := by
      unfold resource Resource.isLive
      rw [hfinite]
      rfl
    have hwait := Reader.openWait_of_openFile j.filters policy hopen
    obtain ⟨records, final, hlength, hpulls, hfinal⟩ :=
      Reader.pulls_of_openFile j.filters policy hlive hopen
    refine ⟨records, final, Nat.lt_of_le_of_lt hlength (length_unread_lt hopen), hpulls, ?_,
      .inl ⟨hwait, ?_⟩⟩ <;>
      rcases hfinal with rfl | rfl <;> rfl

end Job

/-- The record that is printed for a dump that did not open, unless nothing is to be printed. -/
def failureRecord (resource : Resource) (limit : Option Nat) (opened : Except ReaderError Unit) :
    List (Record String) :=
  match opened with
  | .ok () => []
  | .error _ => if limit = some 0 then [] else [.ofFailedOpen resource]

/-- The order of limits, where no limit is the largest. -/
def Within : (limit limit' : Option Nat) → Prop
  | _, none => True
  | none, some _ => False
  | some m, some m' => m ≤ m'

theorem upTo_of_within {α : Type} {limit limit' : Option Nat} (h : Within limit limit')
    (l : List α) : upTo limit l <+: upTo limit' l := by
  cases limit' with
  | none =>
    cases limit with
    | none => exact List.prefix_rfl
    | some m => exact List.take_prefix m l
  | some m' =>
    cases limit with
    | none => exact h.elim
    | some m => exact List.take_prefix_take_left h

theorem ne_zero_of_within {limit limit' : Option Nat} (h : Within limit limit')
    (hlimit : limit ≠ some 0) : limit' ≠ some 0 := by
  rintro rfl
  cases limit with
  | none => exact h
  | some m => exact hlimit (congrArg some (Nat.le_zero.mp h))

theorem shown_of_within {limit limit' : Option Nat} (h : Within limit limit')
    {records : List (Record String)} {resource : Resource} {opened : Except ReaderError Unit}
    (hrecords : opened = .ok () ∨ records = []) :
    upTo limit records ++ failureRecord resource limit opened <+:
      upTo limit' records ++ failureRecord resource limit' opened := by
  cases opened with
  | ok =>
    rw [failureRecord, failureRecord, List.append_nil, List.append_nil]
    exact upTo_of_within h records
  | error e =>
    obtain rfl := hrecords.resolve_left nofun
    have hnone (limit : Option Nat) : upTo limit ([] : List (Record String)) = [] := by
      cases limit with
      | none => rfl
      | some m => exact List.take_nil
    rw [hnone, hnone, failureRecord, failureRecord]
    by_cases hlimit : limit = some 0
    · rw [if_pos hlimit]
      exact List.nil_prefix
    · simp only [if_neg hlimit, if_neg (ne_zero_of_within h hlimit), List.prefix_rfl]

theorem recordLines_of_within {rs ss : List (Record String)} (h : rs <+: ss) :
    ∃ more, recordLines ss = recordLines rs ++ more := by
  obtain ⟨rest, rfl⟩ := h
  refine ⟨recordLines rest, ?_⟩
  rw [recordLines, List.map_append, String.join_append]
  rfl

namespace Job

variable {j : Job} {env : Environment} {t : FileTree} {stamp : Stamp}

theorem run_limited {path : Option String} {c : Configuration} (hoff : j.verbosity = .off)
    (hlog : (j.log t stamp.inName).path = .ok path)
    (hconfigured : (j.configure env (j.log t stamp.inName).tree).2 = .ok c)
    {records : List (Record String)} {final : Pull String}
    (hlength : records.length < pullBound (j.log t stamp.inName).tree j.path)
    (hyields : (Reader.start j.resource c.retryPolicy (j.log t stamp.inName).tree).Yields
      (Ascii.fileFormat j.resource j.filters) records final) (limit : Option Nat) :
    let reader := Reader.start j.resource c.retryPolicy (j.log t stamp.inName).tree
    let opened := (reader.openWait (Ascii.fileFormat j.resource j.filters)).value.1
    let out := (j.limited limit).run env t stamp
    out.stdout = recordLines (upTo limit records ++ failureRecord j.resource limit opened) ∧
      out.exit =
        some (if exceeds limit records.length && final.fails then .failure else .success) := by
  intro reader opened out
  obtain ⟨hstdout, hexit⟩ :=
    run_of_configured (j := j.limited limit) hoff hlog hconfigured
  have hleft : ((j.limited limit).session c (j.log t stamp.inName).tree).left = limit := by
    show limit.map (· - 0) = limit
    exact Option.map_id'
  obtain ⟨hrecords, hcode⟩ := Session.run_of_pulls
    (s := (j.limited limit).session c (j.log t stamp.inName).tree) hyields.pulls_eq hyields.ends
    hlength
  rw [hleft] at hrecords hcode
  have hfailure : (if exceeds limit records.length then final.record?.toList else []) =
      failureRecord j.resource limit opened := by
    rcases hyields.opened with ⟨hopened, hnone⟩ | ⟨⟨e, hopened⟩, rfl, rfl⟩
    · rw [show opened = .ok () from hopened, hnone]
      exact ite_self _
    · rw [show opened = .error e from hopened]
      cases limit with
      | none => rfl
      | some m => cases m <;> rfl
  refine ⟨?_, hexit.trans hcode⟩
  rw [← hfailure, ← hrecords]
  exact hstdout

end Job

/-- A finite dump is printed as far as the limit goes, with a record for a dump that did not open,
and the exit code tells of a failure that the limit left a pull for. A larger limit prints more. -/
theorem prints_pulls {args : List String} {env : Environment} {t : FileTree} {stamp : Stamp}
    {j : Job} {path : Option String} {c : Configuration} (hjob : readJob env args = .ok j)
    (hfinite : j.arguments.live = false) (hoff : j.verbosity = .off)
    (hlog : (j.log t stamp.inName).path = .ok path)
    (hconfigured : (j.configure env (j.log t stamp.inName).tree).2 = .ok c) :
    let format := Ascii.fileFormat j.resource j.filters
    let reader := Reader.start j.resource c.retryPolicy (j.log t stamp.inName).tree
    let limit := j.arguments.maxRecords
    let out := run args env t stamp
    ∃ (records : List (Record String)) (final : Pull String),
      reader.pulls format (records.length + 1) = records.map .ok ++ [final] ∧
      (∀ record, final ≠ .ok record) ∧
      out.stdout = recordLines
        (upTo limit records ++ failureRecord j.resource limit (reader.openWait format).value.1) ∧
      out.exit =
        some (if exceeds limit records.length && final.fails then .failure else .success) ∧
      ∀ (args' : List String) (j' : Job), readJob env args' = .ok j' →
        j' = j.limited j'.arguments.maxRecords → Within limit j'.arguments.maxRecords →
        ∃ more, (run args' env t stamp).stdout = out.stdout ++ more := by
  intro format reader limit out
  obtain ⟨records, final, hlength, hyields⟩ :=
    Job.exists_yields hfinite c.retryPolicy (j.log t stamp.inName).tree
  have hrun (limit : Option Nat) :=
    Job.run_limited hoff hlog hconfigured hlength hyields limit
  have hout : out = (j.limited limit).run env t stamp := by
    show run args env t stamp = _
    rw [run, hjob]
    rfl
  refine ⟨records, final, hyields.pulls_eq, ?_, ?_, ?_, ?_⟩
  · rintro record rfl
    cases hyields.ends
  · rw [hout]
    exact (hrun limit).1
  · rw [hout]
    exact (hrun limit).2
  · intro args' j' hjob' hsame hwithin
    have hout' : run args' env t stamp = (j.limited j'.arguments.maxRecords).run env t stamp := by
      rw [run, hjob', ← hsame]
    have hrecords : (reader.openWait format).value.1 = .ok () ∨ records = [] :=
      hyields.opened.imp And.left fun h => h.2.1
    rw [hout, hout', (hrun limit).1, (hrun _).1]
    exact recordLines_of_within (shown_of_within hwithin hrecords)

/-- A limit below the number of records. -/
theorem prints_pulls_two_records :
    let t := (FileTree.empty 0).add 0 "dump"
      (.file (Text.Utf8.encode "10|a\n20.7|b".toList).toArray 0)
    let first := run ["dump", "--log-level=off", "--max-records=1"] [] t ⟨"", ""⟩
    let all := run ["dump", "--log-level=off"] [] t ⟨"", ""⟩
    first.stdout = "local|local|updates|0|10.000000|Start|Valid|a\n" ∧ first.exit = some .success ∧
      ∃ more, all.stdout = first.stdout ++ more := by
  intro t first all
  obtain ⟨records, final, hpulls, hfinal, hstdout, hexit, hmore⟩ :=
    @prints_pulls ["dump", "--log-level=off", "--max-records=1"] [] t ⟨"", ""⟩ _ _ {} rfl rfl
      (by decide +kernel) rfl (by decide +kernel)
  exact ⟨by decide +kernel, by decide +kernel, hmore ["dump", "--log-level=off"] _ rfl rfl trivial⟩

end CommandLine
end RoutingDump
