import RoutingDump.CommandLine.Run
import RoutingDump.Proofs.Configuration.Layers

/-!
# The configuration of a run

The options of the command line are one more layer. Their values fit into their fields, as those of
a file and of the environment do, so each option that was given replaces its own field and no other.
-/

namespace RoutingDump
namespace CommandLine

namespace Arguments

variable {a a' : Arguments}

theorem once_eq_ok {α : Type} {old : Option α} {new : Except Stop α}
    {set : Option α → Arguments} (h : once old new set = .ok a) :
    ∃ value, new = .ok value ∧ a = set (some value) := by
  unfold once at h
  split at h
  · cases h
    exact ⟨_, rfl, rfl⟩
  · cases h

theorem settings_takePath {value : String} (h : a.takePath value = .ok a') :
    a'.settings = a.settings := by
  obtain ⟨path, -, rfl⟩ := once_eq_ok h
  rfl

theorem settings_takeSwitch {name : List Char} (h : a.takeSwitch name = .ok a') :
    a'.settings = a.settings := by
  unfold takeSwitch at h
  split at h
  · split at h
    · cases h
    · cases h
      rfl
  · split at h
    · cases h
    · split at h <;> cases h

theorem le_of_word64 {value : String} {n : Nat} (h : word64 value = .ok n) :
    n ≤ Text.maxWord64 := by
  unfold word64 at h
  split at h
  · rename_i hn
    cases h
    exact Text.unsigned?_le hn
  · cases h

theorem inRange_take {flag : Flag} {value : String} (ha : a.settings.InRange)
    (h : a.take flag value = .ok a') : a'.settings.InRange := by
  unfold take at h
  cases flag with
  | setting s =>
    obtain ⟨n, hn, rfl⟩ := once_eq_ok h
    refine ha.set ?_
    cases s with
    | maxOpenAttempts =>
      cases hword : word32 value with
      | error e =>
        rw [hword] at hn
        cases hn
      | ok w =>
        rw [hword] at hn
        cases hn
        exact Nat.le_of_lt_succ w.toNat_lt
    | openRetryWaitMs | pollIntervalMs => exact le_of_word64 hn
  | onlyProject | onlyCollector =>
    cases h
    exact ha
  | onlyType =>
    dsimp only at h
    split at h <;> cases h
    exact ha
  | project | collector | recordType | dumpTime | intervalBegin | intervalEnd | config | logDir
  | logLevel | maxRecords =>
    obtain ⟨v, -, rfl⟩ := once_eq_ok h
    exact ha

/-- No argument puts a value into a setting that does not fit. -/
theorem inRange_takeAll {optionsOver : Bool} {args : List String} (ha : a.settings.InRange)
    (h : a.takeAll optionsOver args = .ok a') : a'.settings.InRange := by
  fun_induction takeAll a optionsOver args with
  | case1 =>
    cases h
    exact ha
  | case3 =>
    rename_i hpath ih
    exact ih (settings_takePath hpath ▸ ha) h
  | case4 =>
    rename_i ih
    exact ih ha h
  | case6 | case10 =>
    rename_i htake _ ih
    exact ih (inRange_take ha htake) h
  | case13 =>
    rename_i hswitch _ ih
    exact ih (settings_takeSwitch hswitch ▸ ha) h
  | case16 =>
    rename_i hpath _ _ _ ih
    exact ih (settings_takePath hpath ▸ ha) h
  | _ => cases h

end Arguments

theorem inRange_readJob {env : Environment} {args : List String} {j : Job}
    (h : readJob env args = .ok j) : j.arguments.settings.InRange := by
  unfold readJob at h
  split at h
  · cases h
  · rename_i a htake
    have ha := Arguments.inRange_takeAll Layer.inRange_none htake
    split at h
    · split at h
      · cases h
      · cases h
        exact ha
    · cases h

/-- The configuration has the values of the options, and else those of the layers below. It may
open something. -/
structure Merged (c below : Configuration) (options : Layer) : Prop where
  get_eq : ∀ s, c.get s = (options s).getD (below.get s)
  attempts : c.get .maxOpenAttempts ≠ 0

namespace Job

variable {j : Job} {env : Environment} {t : FileTree}

theorem configure_of_error {e : ConfigurationError}
    (h : (Configuration.load t env j.arguments.config).2 = .error e) :
    (j.configure env t).2 = .error s!"Invalid reader configuration: {chain e}" := by
  unfold configure
  generalize Configuration.load t env j.arguments.config = loaded at h ⊢
  obtain ⟨notices, result⟩ := loaded
  cases h
  rfl

theorem configure_of_ok {below : Configuration}
    (hoptions : j.arguments.settings.InRange)
    (h : (Configuration.load t env j.arguments.config).2 = .ok below) :
    (j.configure env t).2 =
      if (j.arguments.settings .maxOpenAttempts).getD (below.get .maxOpenAttempts) = 0 then
        .error (chain .noAttempts)
      else .ok (below.overlay j.arguments.settings) := by
  unfold configure
  generalize Configuration.load t env j.arguments.config = loaded at h ⊢
  obtain ⟨notices, result⟩ := loaded
  cases h
  dsimp only
  rw [Configuration.validate_eq, Configuration.get_overlay _ hoptions]
  by_cases hattempts :
      (j.arguments.settings .maxOpenAttempts).getD (below.get .maxOpenAttempts) = 0
  · simp only [if_pos hattempts]
  · simp only [if_neg hattempts]

theorem configure_eq_ok_iff (hoptions : j.arguments.settings.InRange) {c : Configuration} :
    (j.configure env t).2 = .ok c ↔
      ∃ below, (Configuration.load t env j.arguments.config).2 = .ok below ∧
        Merged c below j.arguments.settings := by
  constructor
  · intro h
    cases hload : (Configuration.load t env j.arguments.config).2 with
    | error e =>
      rw [configure_of_error hload] at h
      cases h
    | ok below =>
      have hget := Configuration.get_overlay below hoptions
      rw [configure_of_ok hoptions hload] at h
      split at h
      · cases h
      · rename_i hattempts
        cases h
        refine ⟨below, rfl, hget, ?_⟩
        rw [hget]
        exact hattempts
  · rintro ⟨below, hload, hget, hattempts⟩
    have hsame : below.overlay j.arguments.settings = c :=
      Configuration.eq_of_get fun s =>
        (Configuration.get_overlay below hoptions s).trans (hget s).symm
    rw [hget] at hattempts
    rw [configure_of_ok hoptions hload, if_neg hattempts, hsame]

theorem configure_eq_error_iff (hoptions : j.arguments.settings.InRange) {text : String} :
    (j.configure env t).2 = .error text ↔
      (∃ e, (Configuration.load t env j.arguments.config).2 = .error e ∧
          text = s!"Invalid reader configuration: {chain e}") ∨
        ∃ below, (Configuration.load t env j.arguments.config).2 = .ok below ∧
          (j.arguments.settings .maxOpenAttempts).getD (below.get .maxOpenAttempts) = 0 ∧
          text = chain .noAttempts := by
  cases hload : (Configuration.load t env j.arguments.config).2 with
  | error e =>
    rw [configure_of_error hload]
    simp [eq_comm]
  | ok below =>
    rw [configure_of_ok hoptions hload]
    by_cases hattempts :
        (j.arguments.settings .maxOpenAttempts).getD (below.get .maxOpenAttempts) = 0
    · rw [if_pos hattempts]
      simp [hattempts, eq_comm]
    · rw [if_neg hattempts]
      simp [hattempts]

end Job

open RoutingDump.Configuration (FileGives FirstFault load)

/-- Loading comes to the values of all layers or to the fault of the first one that has any, and
the options go on top of what was loaded. -/
theorem configuration_layers (t : FileTree) (env : Environment) (path : Option String) :
    (∀ c, (load t env path).2 = .ok c ↔
        ∃ file vars, FileGives t path file ∧ (∀ s, VariableGives env.text? s (vars s)) ∧
          c.Layered file vars) ∧
      (∀ e, (load t env path).2 = .error e ↔ FirstFault t env path e) ∧
      ∀ (args : List String) (j : Job), readJob env args = .ok j → j.arguments.config = path →
        (∀ c, (j.configure env t).2 = .ok c ↔
          ∃ below, (load t env path).2 = .ok below ∧ Merged c below j.arguments.settings) ∧
        ∀ text, (j.configure env t).2 = .error text ↔
          (∃ e, (load t env path).2 = .error e ∧
              text = s!"Invalid reader configuration: {chain e}") ∨
            ∃ below, (load t env path).2 = .ok below ∧
              (j.arguments.settings .maxOpenAttempts).getD (below.get .maxOpenAttempts) = 0 ∧
              text = chain .noAttempts := by
  refine ⟨fun c => Configuration.load_eq_ok_iff, fun e => Configuration.load_eq_error_iff, ?_⟩
  rintro args j hj rfl
  have hoptions := inRange_readJob hj
  exact ⟨fun c => Job.configure_eq_ok_iff hoptions, fun text => Job.configure_eq_error_iff hoptions⟩

/-- A field from each layer. -/
theorem configuration_layers_mixed :
    let bytes := (Text.Utf8.encode
      "\x7b\"pollIntervalMs\":50,\"maxOpenAttempts\":3\x7d".toList).toArray
    let t := (FileTree.empty 0).add 0 "config.json" (.file bytes 0)
    let env : Environment := [("READER_OPEN_RETRY_WAIT_MS", Text.Utf8.encode " +7 ".toList)]
    let args := ["dump", "--config=config.json", "--poll-interval-ms=9"]
    ∃ j, readJob env args = .ok j ∧ (j.configure env t).2 = .ok ⟨3, 7, 9⟩ := by
  intro bytes t env args
  refine ⟨_, rfl, ?_⟩
  have hload : (load t env (some "config.json")).2 = .ok ⟨3, 7, 50⟩ := by decide +kernel
  have hmerged := ((configuration_layers t env (some "config.json")).2.2 args _ rfl rfl).1 ⟨3, 7, 9⟩
  exact hmerged.mpr ⟨_, hload, fun s => by cases s <;> rfl, by decide⟩

/-- A list gives a value without a key, and a variable that holds no text is as good as none. -/
theorem configuration_layers_unnamed :
    let bytes := (Text.Utf8.encode "[7]".toList).toArray
    let t := (FileTree.empty 0).add 0 "config.json" (.file bytes 0)
    let env : Environment := [("READER_POLL_INTERVAL_MS", [0xff])]
    ('"' ∉ "[7]".toList ∧ (load t [] (some "config.json")).2 = .ok { maxOpenAttempts := 7 } ∧
        ({} : Configuration).maxOpenAttempts ≠ 7) ∧
      env.bytes? Setting.pollIntervalMs.variableName = some [0xff] ∧
        (∀ text, Text.Utf8.encode text ≠ [0xff]) ∧ (load t env none).2 = .ok {} := by
  intro bytes t env
  have hlist : (load t [] (some "config.json")).2 = .ok { maxOpenAttempts := 7 } := by
    decide +kernel
  have hunset : (load t env none).2 = .ok {} := by decide +kernel
  refine ⟨⟨by decide, hlist, by decide⟩, by decide, fun text htext => ?_, hunset⟩
  have hdecode := Text.Utf8.decode?_encode text
  rw [htext] at hdecode
  cases hdecode

end CommandLine
end RoutingDump
