import RoutingDump.Configuration.Load
import RoutingDump.Proofs.Configuration.Json
import RoutingDump.Proofs.Text.Exact
import RoutingDump.Proofs.Text.Numeral

/-!
# Layers of a configuration

What each layer has to say is put here as a relation, without regard to the order in which layers
are read: the values that a file gives, the value that a variable gives, and the faults of either.
A layer gives its values or has a fault, and not both, so loading comes to the values of all layers
or to the fault of the first one that has any.
-/

namespace RoutingDump

open Text (Utf8.encode Utf8.decode?)

namespace Configuration

/-- A configuration is the values of its fields. -/
theorem eq_of_get {c c' : Configuration} (h : ∀ s, c.get s = c'.get s) : c = c' := by
  obtain ⟨attempts, wait, poll⟩ := c
  obtain ⟨attempts', wait', poll'⟩ := c'
  have hattempts : attempts = attempts' := UInt32.toNat_inj.mp (h .maxOpenAttempts)
  have hwait : wait = wait' := UInt64.toNat_inj.mp (h .openRetryWaitMs)
  have hpoll : poll = poll' := UInt64.toNat_inj.mp (h .pollIntervalMs)
  rw [hattempts, hwait, hpoll]

theorem get_set (c : Configuration) {s : Setting} {n : Nat} (hn : n ≤ s.limit) (s' : Setting) :
    (c.set s n).get s' = if s' = s then n else c.get s' := by
  by_cases hs : s' = s
  · rw [if_pos hs, hs]
    cases s with
    | maxOpenAttempts => exact UInt32.toNat_ofNat_of_lt' (Nat.lt_succ_of_le hn)
    | openRetryWaitMs | pollIntervalMs => exact UInt64.toNat_ofNat_of_lt' (Nat.lt_succ_of_le hn)
  · rw [if_neg hs]
    cases s <;> cases s' <;> first | exact absurd rfl hs | rfl

/-- One step of an overlay. -/
def put (l : Layer) (c : Configuration) (s : Setting) : Configuration :=
  match l s with
  | some value => c.set s value
  | none => c

theorem get_put {l : Layer} (h : l.InRange) (c : Configuration) (s₀ s : Setting) :
    (put l c s₀).get s = if s = s₀ then (l s).getD (c.get s) else c.get s := by
  unfold put
  cases hvalue : l s₀ with
  | none =>
    by_cases hs : s = s₀
    · rw [if_pos hs, hs, hvalue]
      rfl
    · rw [if_neg hs]
  | some n =>
    dsimp only
    rw [get_set c (h s₀ n hvalue)]
    by_cases hs : s = s₀
    · rw [if_pos hs, if_pos hs, hs, hvalue]
      rfl
    · rw [if_neg hs, if_neg hs]

theorem get_overlay (c : Configuration) {l : Layer} (h : l.InRange) (s : Setting) :
    (c.overlay l).get s = (l s).getD (c.get s) := by
  show (put l (put l (put l c .maxOpenAttempts) .openRetryWaitMs) .pollIntervalMs).get s = _
  rw [get_put h, get_put h, get_put h]
  cases s <;> rfl

theorem validate_eq {c : Configuration} :
    c.validate = if c.get .maxOpenAttempts = 0 then .error .noAttempts else .ok c := by
  have hzero : c.maxOpenAttempts = 0 ↔ c.get .maxOpenAttempts = 0 := UInt32.toNat_inj.symm
  by_cases h : c.get .maxOpenAttempts = 0
  · rw [validate, if_pos h, if_pos (hzero.mpr h)]
  · rw [validate, if_neg h, if_neg (mt hzero.mp h)]

end Configuration

/-! ### The file -/

namespace Configuration

/-- The values that the file at a path gives. A path that leads to no file gives none. -/
inductive FileGives (t : FileTree) : Option String → Layer → Prop
  | noPath : FileGives t none .none
  | noFile {p : String} (hfile : t.isFile p = false) : FileGives t (some p) .none
  | file {p : String} {text : List Char} {fs : List (Setting × Nat)} (hfile : t.isFile p = true)
    (hread : t.read p = .ok (Utf8.encode text)) (hwritten : Written text fs)
    (hattempts : fs.lookup .maxOpenAttempts ≠ some 0) : FileGives t (some p) (.ofFields fs)

/-- What is wrong with the file at a path. -/
inductive FileFault (t : FileTree) : Option String → ConfigurationError → Prop
  | unreadable {p : String} {e : IoError} (hfile : t.isFile p = true)
    (hread : t.read p = .error e) : FileFault t (some p) (.file e)
  | notText {p : String} {bytes : List UInt8} (hfile : t.isFile p = true)
    (hread : t.read p = .ok bytes) (hbytes : ∀ text, bytes ≠ Utf8.encode text) :
    FileFault t (some p) (.file .notText)
  | json {p : String} {text : List Char} {fault : Json.Fault} (hfile : t.isFile p = true)
    (hread : t.read p = .ok (Utf8.encode text)) (hlayer : readLayer text = .error fault) :
    FileFault t (some p) (.json fault)
  | noAttempts {p : String} {text : List Char} {fs : List (Setting × Nat)}
    (hfile : t.isFile p = true) (hread : t.read p = .ok (Utf8.encode text))
    (hwritten : Written text fs) (hattempts : fs.lookup .maxOpenAttempts = some 0) :
    FileFault t (some p) .noAttempts

theorem FileGives.inRange {t : FileTree} {path : Option String} {l : Layer}
    (h : FileGives t path l) : l.InRange := by
  cases h with
  | noPath | noFile => exact Layer.inRange_none
  | file hfile hread hwritten => exact hwritten.inRange

theorem fileGives_or_fault (t : FileTree) (path : Option String) :
    (∃ l, FileGives t path l) ∨ ∃ e, FileFault t path e := by
  cases path with
  | none => exact .inl ⟨_, .noPath⟩
  | some p =>
    cases hfile : t.isFile p with
    | false => exact .inl ⟨_, .noFile hfile⟩
    | true =>
      cases hread : t.read p with
      | error e => exact .inr ⟨_, .unreadable hfile hread⟩
      | ok bytes =>
        cases htext : Utf8.decode? bytes with
        | none =>
          refine .inr ⟨_, .notText hfile hread fun text hbytes => ?_⟩
          rw [hbytes, Text.Utf8.decode?_encode] at htext
          cases htext
        | some text =>
          rw [Text.Utf8.decode?_eq_some_iff.mp htext] at hread
          cases hlayer : readLayer text with
          | error fault => exact .inr ⟨_, .json hfile hread hlayer⟩
          | ok l =>
            obtain ⟨fs, hwritten, -⟩ := readLayer_eq_ok_iff.mp hlayer
            by_cases hattempts : fs.lookup .maxOpenAttempts = some 0
            · exact .inr ⟨_, .noAttempts hfile hread hwritten hattempts⟩
            · exact .inl ⟨_, .file hfile hread hwritten hattempts⟩

/-- The configuration below the environment. -/
def base (t : FileTree) (path : Option String) : Except ConfigurationError Configuration :=
  match path with
  | none => .ok {}
  | some p => if t.isFile p then ofFile t p else .ok {}

theorem load_eq (t : FileTree) (env : Environment) (path : Option String) :
    (load t env path).2 =
      match base t path with
      | .error e => .error e
      | .ok c => c.withEnvironment env.text? := by
  unfold load base
  cases path with
  | none => rfl
  | some p =>
    dsimp only
    by_cases hfile : t.isFile p = true
    · simp only [if_pos hfile]
      cases ofFile t p <;> rfl
    · simp only [if_neg hfile]

theorem ofBytes_encode {text : List Char} {fs : List (Setting × Nat)} (h : Written text fs) :
    ofBytes (Utf8.encode text) =
      if fs.lookup .maxOpenAttempts = some 0 then .error .noAttempts
      else .ok (({} : Configuration).overlay (.ofFields fs)) := by
  have hget := get_overlay {} h.inRange .maxOpenAttempts
  have hzero : (({} : Configuration).overlay (.ofFields fs)).get .maxOpenAttempts = 0 ↔
      fs.lookup .maxOpenAttempts = some 0 := by
    rw [hget]
    show (fs.lookup .maxOpenAttempts).getD 5 = 0 ↔ _
    cases fs.lookup .maxOpenAttempts with
    | none => simp
    | some n => simp
  rw [ofBytes, Text.Utf8.decode?_encode]
  dsimp only
  rw [readLayer_eq_ok_iff.mpr ⟨fs, h, rfl⟩]
  dsimp only
  rw [validate_eq]
  simp only [hzero]

theorem base_of_gives {t : FileTree} {path : Option String} {l : Layer}
    (h : FileGives t path l) : base t path = .ok (({} : Configuration).overlay l) := by
  cases h with
  | noPath => rfl
  | @noFile p hfile =>
    show (if t.isFile p then ofFile t p else .ok {}) = _
    rw [hfile]
    rfl
  | @file p text fs hfile hread hwritten hattempts =>
    show (if t.isFile p then ofFile t p else .ok {}) = _
    rw [if_pos hfile, ofFile, hread]
    dsimp only
    rw [ofBytes_encode hwritten, if_neg hattempts]

theorem base_of_fault {t : FileTree} {path : Option String} {e : ConfigurationError}
    (h : FileFault t path e) : base t path = .error e := by
  cases h with
  | @unreadable p e hfile hread =>
    show (if t.isFile p then ofFile t p else .ok {}) = _
    rw [if_pos hfile, ofFile, hread]
  | @notText p bytes hfile hread hbytes =>
    have hnone : Utf8.decode? bytes = none := by
      cases htext : Utf8.decode? bytes with
      | none => rfl
      | some text => exact absurd (Text.Utf8.decode?_eq_some_iff.mp htext) (hbytes text)
    show (if t.isFile p then ofFile t p else .ok {}) = _
    rw [if_pos hfile, ofFile, hread]
    dsimp only
    rw [ofBytes, hnone]
  | @json p text fault hfile hread hlayer =>
    show (if t.isFile p then ofFile t p else .ok {}) = _
    rw [if_pos hfile, ofFile, hread]
    dsimp only
    rw [ofBytes, Text.Utf8.decode?_encode]
    dsimp only
    rw [hlayer]
  | @noAttempts p text fs hfile hread hwritten hattempts =>
    show (if t.isFile p then ofFile t p else .ok {}) = _
    rw [if_pos hfile, ofFile, hread]
    dsimp only
    rw [ofBytes_encode hwritten, if_pos hattempts]

end Configuration

/-! ### The environment -/

/-- What the variable of a field says, where `lookup` gives the values of variables: nothing if it
is not set, and the number that stands in it otherwise. -/
inductive VariableGives (lookup : String → Option String) (s : Setting) : Option Nat → Prop
  | unset (hunset : lookup s.variableName = none) : VariableGives lookup s none
  | number {value : String} {n : Nat} (hset : lookup s.variableName = some value)
    (hnumeral : Text.Numeral (Text.trim value.toList) n) (hn : n ≤ s.limit) :
    VariableGives lookup s (some n)

/-- The first of some variables that is set and says no number. -/
inductive VariableFault (lookup : String → Option String) :
    List Setting → ConfigurationError → Prop
  | here {s : Setting} {ss : List Setting} {value : String}
    (hset : lookup s.variableName = some value)
    (hbad : ∀ n ≤ s.limit, ¬ Text.Numeral (Text.trim value.toList) n) :
    VariableFault lookup (s :: ss) (.badVariable s.variableName value)
  | later {s : Setting} {ss : List Setting} {e : ConfigurationError} {o : Option Nat}
    (hgives : VariableGives lookup s o) (h : VariableFault lookup ss e) :
    VariableFault lookup (s :: ss) e

namespace Configuration

variable {lookup : String → Option String}

theorem variableGives_inRange {vars : Layer} (h : ∀ s, VariableGives lookup s (vars s)) :
    vars.InRange := by
  intro s n hvalue
  have hs := h s
  rw [hvalue] at hs
  cases hs with
  | number hset hnumeral hn => exact hn

theorem gives_or_bad (lookup : String → Option String) (s : Setting) :
    (∃ o, VariableGives lookup s o) ∨
      ∃ value, lookup s.variableName = some value ∧
        ∀ n ≤ s.limit, ¬ Text.Numeral (Text.trim value.toList) n := by
  cases hset : lookup s.variableName with
  | none => exact .inl ⟨none, .unset hset⟩
  | some value =>
    cases hnumber : Text.unsigned? s.limit (Text.trim value.toList) with
    | some n =>
      obtain ⟨hnumeral, hn⟩ := Text.unsigned?_eq_some_iff.mp hnumber
      exact .inl ⟨some n, .number hset hnumeral hn⟩
    | none =>
      refine .inr ⟨value, rfl, fun n hn hnumeral => ?_⟩
      rw [Text.unsigned?_eq_some_iff.mpr ⟨hnumeral, hn⟩] at hnumber
      cases hnumber

theorem variables_give_or_fault (lookup : String → Option String) (ss : List Setting) :
    (∃ vars : Layer, ∀ s ∈ ss, VariableGives lookup s (vars s)) ∨
      ∃ e, VariableFault lookup ss e := by
  induction ss with
  | nil => exact .inl ⟨.none, fun s hs => absurd hs List.not_mem_nil⟩
  | cons s ss ih =>
    rcases gives_or_bad lookup s with ⟨o, ho⟩ | ⟨value, hset, hbad⟩
    · rcases ih with ⟨vars, hvars⟩ | ⟨e, he⟩
      · refine .inl ⟨fun s' => if s' = s then o else vars s', fun s' hs' => ?_⟩
        dsimp only
        by_cases hs : s' = s
        · rw [if_pos hs, hs]
          exact ho
        · rw [if_neg hs]
          exact hvars s' ((List.mem_cons.mp hs').resolve_left hs)
      · exact .inr ⟨e, .later ho he⟩
    · exact .inr ⟨_, .here hset hbad⟩

/-- The environment in front of a variable that gives a value or is not set. -/
theorem environmentLayer_cons {s : Setting} {o : Option Nat} (h : VariableGives lookup s o)
    (ss : List Setting) :
    environmentLayer lookup (s :: ss) =
      match environmentLayer lookup ss with
      | .error e => .error e
      | .ok l =>
        .ok fun s' => if s' = s then o.or (l s') else l s' := by
  rw [environmentLayer]
  cases h with
  | unset hunset =>
    rw [hunset]
    dsimp only
    cases environmentLayer lookup ss with
    | error e => rfl
    | ok l => exact congrArg Except.ok (funext fun s' => (ite_self _).symm)
  | number hset hnumeral hn =>
    rw [hset]
    dsimp only
    rw [Text.unsigned?_eq_some_iff.mpr ⟨hnumeral, hn⟩]
    rfl

theorem environmentLayer_of_gives {vars : Layer} {ss : List Setting}
    (h : ∀ s ∈ ss, VariableGives lookup s (vars s)) :
    environmentLayer lookup ss = .ok fun s => if s ∈ ss then vars s else none := by
  induction ss with
  | nil => rfl
  | cons s ss ih =>
    obtain ⟨hs, hss⟩ := List.forall_mem_cons.mp h
    rw [environmentLayer_cons hs, ih hss]
    refine congrArg Except.ok (funext fun s' => ?_)
    dsimp only
    by_cases heq : s' = s
    · rw [if_pos heq, if_pos (List.mem_cons.mpr (.inl heq)), heq]
      by_cases hmem : s ∈ ss
      · rw [if_pos hmem, Option.or_self]
      · rw [if_neg hmem, Option.or_none]
    · rw [if_neg heq]
      by_cases hmem : s' ∈ ss
      · rw [if_pos hmem, if_pos (List.mem_cons_of_mem s hmem)]
      · rw [if_neg hmem, if_neg (fun hcons => (List.mem_cons.mp hcons).elim heq hmem)]

theorem environmentLayer_of_fault {ss : List Setting} {e : ConfigurationError}
    (h : VariableFault lookup ss e) : environmentLayer lookup ss = .error e := by
  induction h with
  | @here s ss value hset hbad =>
    have hnone : Text.unsigned? s.limit (Text.trim value.toList) = none := by
      cases hnumber : Text.unsigned? s.limit (Text.trim value.toList) with
      | none => rfl
      | some n =>
        obtain ⟨hnumeral, hn⟩ := Text.unsigned?_eq_some_iff.mp hnumber
        exact absurd hnumeral (hbad n hn)
    rw [environmentLayer, hset]
    dsimp only
    rw [hnone]
  | later hgives h ih => rw [environmentLayer_cons hgives, ih]

end Configuration

/-! ### All layers below the command line -/

namespace Configuration

/-- The configuration has the values of the environment, where these are missing those of the
file, and else the defaults. It may open something. -/
structure Layered (c : Configuration) (file vars : Layer) : Prop where
  get_eq : ∀ s, c.get s = ((vars s).or (file s)).getD (({} : Configuration).get s)
  attempts : c.get .maxOpenAttempts ≠ 0

/-- The fault in the first layer that has one. -/
inductive FirstFault (t : FileTree) (env : Environment) (path : Option String) :
    ConfigurationError → Prop
  | inFile {e : ConfigurationError} (h : FileFault t path e) : FirstFault t env path e
  | inVariable {e : ConfigurationError} {file : Layer} (hfile : FileGives t path file)
    (h : VariableFault env.text? Setting.all e) : FirstFault t env path e
  | noAttempts {file vars : Layer} (hfile : FileGives t path file)
    (hvars : ∀ s, VariableGives env.text? s (vars s))
    (h : ((vars .maxOpenAttempts).or (file .maxOpenAttempts)).getD
      (({} : Configuration).get .maxOpenAttempts) = 0) : FirstFault t env path .noAttempts

variable {t : FileTree} {env : Environment} {path : Option String}

theorem get_layers {file vars : Layer} (hfile : file.InRange) (hvars : vars.InRange)
    (s : Setting) :
    ((({} : Configuration).overlay file).overlay vars).get s =
      ((vars s).or (file s)).getD (({} : Configuration).get s) := by
  rw [get_overlay _ hvars, get_overlay _ hfile]
  cases vars s <;> rfl

theorem load_of_gives {file vars : Layer} (hfile : FileGives t path file)
    (hvars : ∀ s, VariableGives env.text? s (vars s)) :
    (load t env path).2 = ((({} : Configuration).overlay file).overlay vars).validate := by
  have hlayer : environmentLayer env.text? Setting.all = .ok vars := by
    rw [environmentLayer_of_gives fun s _ => hvars s]
    exact congrArg Except.ok (funext fun s => if_pos s.mem_all)
  rw [load_eq, base_of_gives hfile]
  dsimp only
  rw [withEnvironment, hlayer]

theorem load_of_fileFault {e : ConfigurationError} (h : FileFault t path e) :
    (load t env path).2 = .error e := by
  rw [load_eq, base_of_fault h]

theorem load_of_variableFault {file : Layer} {e : ConfigurationError}
    (hfile : FileGives t path file) (h : VariableFault env.text? Setting.all e) :
    (load t env path).2 = .error e := by
  rw [load_eq, base_of_gives hfile]
  dsimp only
  rw [withEnvironment, environmentLayer_of_fault h]

theorem load_eq_ok_iff {c : Configuration} :
    (load t env path).2 = .ok c ↔
      ∃ file vars, FileGives t path file ∧ (∀ s, VariableGives env.text? s (vars s)) ∧
        c.Layered file vars := by
  constructor
  · intro h
    rcases fileGives_or_fault t path with ⟨file, hfile⟩ | ⟨e, he⟩
    · rcases variables_give_or_fault env.text? Setting.all with ⟨vars, hvars⟩ | ⟨e, he⟩
      · have hvars (s : Setting) : VariableGives env.text? s (vars s) := hvars s s.mem_all
        have hget := get_layers hfile.inRange (variableGives_inRange hvars)
        rw [load_of_gives hfile hvars, validate_eq] at h
        split at h
        · cases h
        · rename_i hattempts
          cases h
          exact ⟨file, vars, hfile, hvars, hget, hattempts⟩
      · rw [load_of_variableFault hfile he] at h
        cases h
    · rw [load_of_fileFault he] at h
      cases h
  · rintro ⟨file, vars, hfile, hvars, hc⟩
    have hget := get_layers hfile.inRange (variableGives_inRange hvars)
    have hsame : (({} : Configuration).overlay file).overlay vars = c :=
      eq_of_get fun s => (hget s).trans (hc.get_eq s).symm
    rw [load_of_gives hfile hvars, hsame, validate_eq, if_neg hc.attempts]

theorem load_eq_error_iff {e : ConfigurationError} :
    (load t env path).2 = .error e ↔ FirstFault t env path e := by
  constructor
  · intro h
    rcases fileGives_or_fault t path with ⟨file, hfile⟩ | ⟨e', he⟩
    · rcases variables_give_or_fault env.text? Setting.all with ⟨vars, hvars⟩ | ⟨e', he⟩
      · have hvars (s : Setting) : VariableGives env.text? s (vars s) := hvars s s.mem_all
        have hget := get_layers hfile.inRange (variableGives_inRange hvars)
        rw [load_of_gives hfile hvars, validate_eq, hget] at h
        split at h
        · rename_i hattempts
          cases h
          exact .noAttempts hfile hvars hattempts
        · cases h
      · rw [load_of_variableFault hfile he] at h
        cases h
        exact .inVariable hfile he
    · rw [load_of_fileFault he] at h
      cases h
      exact .inFile he
  · intro h
    cases h with
    | inFile h => exact load_of_fileFault h
    | inVariable hfile h => exact load_of_variableFault hfile h
    | noAttempts hfile hvars h =>
      rw [load_of_gives hfile hvars, validate_eq,
        get_layers hfile.inRange (variableGives_inRange hvars), if_pos h]

end Configuration
end RoutingDump
