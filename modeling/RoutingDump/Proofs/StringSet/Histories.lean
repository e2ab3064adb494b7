import Mathlib.Logic.Function.Basic
import RoutingDump.Proofs.StringSet.Elements
import RoutingDump.StringSet.Named

/-!
# Histories of named sets

Beside the named sets stands a family of finite sets, which the same actions change as mathematics
has it. After any history the two agree: in every answer on the way, and in the elements of every
set at the end. What no action names stays as it was, also where one set began as a copy of another.
-/

namespace RoutingDump

/-- Finite sets side by side, told apart by name. -/
abbrev SetFamily := String → Finset String

namespace SetFamily

/-- The set `name` after an action on it. -/
def changed (sets : SetFamily) (name : String) : SetAction → Finset String
  | .clear => ∅
  | .replace members => members.toFinset
  | .insert text => Insert.insert text (sets name)
  | .erase text => (sets name).erase text
  | .union source => sets name ∪ sets source
  | .copy source => sets source
  | .contains _ | .equals _ | .members | .size => sets name

/-- What an action on the set `name` answers. An insertion and a removal tell whether they make a
difference. -/
def answered (sets : SetFamily) (name : String) (action : SetAction) : SetAnswer :=
  match action with
  | .clear | .replace _ | .union _ | .copy _ => .nothing
  | .insert _ | .erase _ => .flag (decide (sets.changed name action ≠ sets name))
  | .contains text => .flag (decide (text ∈ sets name))
  | .equals source => .flag (decide (sets name = sets source))
  | .members => .members (sets name).sort
  | .size => .size (sets name).card

def step (sets : SetFamily) (name : String) (action : SetAction) : SetAnswer × SetFamily :=
  (sets.answered name action, Function.update sets name (sets.changed name action))

def run (sets : SetFamily) : List (String × SetAction) → List SetAnswer × SetFamily
  | [] => ([], sets)
  | (name, action) :: rest =>
    let (answer, sets) := sets.step name action
    let (answers, sets) := sets.run rest
    (answer :: answers, sets)

end SetFamily

namespace NamedSets

/-- The elements behind each name. -/
def family (sets : NamedSets) : SetFamily := fun name => (sets name).elements

@[simp] theorem family_apply (sets : NamedSets) (name : String) :
    sets.family name = (sets name).elements := rfl

@[simp] theorem family_put (sets : NamedSets) (name : String) (s : StringSet) :
    (sets.put name s).family = Function.update sets.family name s.elements := by
  funext other
  by_cases h : other = name
  · subst h
    simp
  · simp [put_other h, h]

theorem flag_eq {b : Bool} {p : Prop} [Decidable p] (h : b = true ↔ p) :
    SetAnswer.flag b = .flag (decide p) := by
  rw [Bool.eq_iff_iff.mpr (h.trans decide_eq_true_iff.symm)]

theorem answer_step (sets : NamedSets) (name : String) (action : SetAction) :
    (sets.step name action).1 = sets.family.answered name action := by
  cases action with
  | clear | replace members | union source | copy source => rfl
  | insert text => exact flag_eq StringSet.insert_fst_iff
  | erase text => exact flag_eq StringSet.erase_fst_iff
  | contains text => exact flag_eq StringSet.contains_iff
  | equals source => exact flag_eq StringSet.beq_iff
  | members => exact congrArg SetAnswer.members (sets name).sorted_eq_sort
  | size => exact congrArg SetAnswer.size (sets name).size_eq_card

theorem family_step (sets : NamedSets) (name : String) (action : SetAction) :
    (sets.step name action).2.family =
      Function.update sets.family name (sets.family.changed name action) := by
  cases action with
  | clear | replace members | insert text | erase text | union source | copy source =>
    simp [step, SetFamily.changed]
  | contains text | equals source | members | size =>
    exact (Function.update_eq_self name sets.family).symm

theorem run_cons (sets : NamedSets) (name : String) (action : SetAction)
    (rest : List (String × SetAction)) :
    sets.run ((name, action) :: rest) =
      ((sets.step name action).1 :: ((sets.step name action).2.run rest).1,
        ((sets.step name action).2.run rest).2) := rfl

/-- Named sets and finite sets go side by side, whatever is done to them. -/
theorem run_family (sets : NamedSets) (history : List (String × SetAction)) :
    sets.family.run history = ((sets.run history).1, (sets.run history).2.family) := by
  induction history generalizing sets with
  | nil => rfl
  | cons entry rest ih =>
    obtain ⟨name, action⟩ := entry
    rw [run_cons, SetFamily.run, SetFamily.step, ← answer_step, ← family_step]
    dsimp only
    rw [ih]

theorem run_other {sets : NamedSets} {other : String} {history : List (String × SetAction)}
    (h : ∀ entry ∈ history, entry.1 ≠ other) : (sets.run history).2 other = sets other := by
  induction history generalizing sets with
  | nil => rfl
  | cons entry rest ih =>
    obtain ⟨name, action⟩ := entry
    have hname : other ≠ name := fun heq => h _ List.mem_cons_self heq.symm
    rw [run_cons]
    dsimp only
    rw [ih fun entry hentry => h entry (List.mem_cons_of_mem _ hentry), step_other action hname]

/-- Several merges into one set, in the order of the sources. -/
def merges (name : String) (sources : List String) : List (String × SetAction) :=
  sources.map fun source => (name, .union source)

theorem mem_step_union (sets : NamedSets) (name source other : String) (x : String) :
    x ∈ (sets.step name (.union source)).2 other ↔
      x ∈ sets other ∨ other = name ∧ x ∈ sets source := by
  by_cases h : other = name
  · subst h
    have hunion : (sets.step other (.union source)).2 other = (sets other).union (sets source) :=
      put_self ..
    rw [hunion, StringSet.mem_union]
    simp
  · rw [step_other _ h]
    simp [h]

/-- A source that is the target itself makes no difference. -/
theorem mem_merges (sets : NamedSets) (name : String) (sources : List String) (x : String) :
    x ∈ (sets.run (merges name sources)).2 name ↔
      x ∈ sets name ∨ ∃ source ∈ sources, x ∈ sets source := by
  induction sources generalizing sets with
  | nil => simp [merges, run]
  | cons source rest ih =>
    show x ∈ ((sets.step name (.union source)).2.run (merges name rest)).2 name ↔ _
    rw [ih]
    simp only [mem_step_union]
    grind

/-- What a history makes of named sets is what it makes of their elements. -/
structure Refines (sets : NamedSets) (history : List (String × SetAction)) : Prop where
  answers_eq : (sets.run history).1 = (sets.family.run history).1
  mem_iff : ∀ name x, x ∈ (sets.run history).2 name ↔ x ∈ (sets.family.run history).2 name
  /-- Whoever goes through a set meets every element once. -/
  each_once : ∀ name, ((sets.run history).2 name).toList.Nodup ∧
    ∀ x, x ∈ ((sets.run history).2 name).toList ↔ x ∈ (sets.family.run history).2 name
  size_eq : ∀ name, ((sets.run history).2 name).size = ((sets.family.run history).2 name).card
  isEmpty_iff : ∀ name,
    ((sets.run history).2 name).isEmpty = true ↔ ((sets.run history).2 name).size = 0
  other : ∀ name, (∀ entry ∈ history, entry.1 ≠ name) → (sets.run history).2 name = sets name
  copied : ∀ name source, (∀ entry ∈ history, entry.1 ≠ name) →
    (sets.run ((name, .copy source) :: history)).2 name = sets source

theorem refines (sets : NamedSets) (history : List (String × SetAction)) :
    sets.Refines history := by
  have hrun := run_family sets history
  have hanswers := congrArg Prod.fst hrun
  have hfamily := congrArg Prod.snd hrun
  have hmem (name x : String) :
      x ∈ (sets.run history).2 name ↔ x ∈ (sets.family.run history).2 name := by
    rw [hfamily]
    exact Iff.rfl
  constructor
  case answers_eq => exact hanswers.symm
  case mem_iff => exact hmem
  case each_once =>
    intro name
    exact ⟨((sets.run history).2 name).nodup, hmem name⟩
  case size_eq =>
    intro name
    rw [hfamily]
    rfl
  case isEmpty_iff =>
    intro name
    exact StringSet.isEmpty_iff_size
  case other =>
    intro name h
    exact run_other h
  case copied =>
    intro name source h
    rw [run_cons]
    dsimp only
    rw [run_other h]
    exact put_self ..

/-- Named sets refine finite sets. Equality forgets how two sets came about, and merging is the
union of sets, so it may be repeated and done in any order. -/
theorem history_refines_sets :
    NamedSets.empty.family = (fun _ => ∅) ∧
      (∀ (sets : NamedSets) (history : List (String × SetAction)), sets.Refines history) ∧
      (∀ s t : StringSet, (s == t) = true ↔ ∀ x, x ∈ s ↔ x ∈ t) ∧
      (∀ s t : StringSet, (s.union t).union t = s.union t ∧ (s.union t == t.union s) = true) ∧
      ∀ (sets : NamedSets) (name : String) (sources reordered : List String),
        sources.Perm reordered →
          ((sets.run (merges name sources)).2 name == (sets.run (merges name reordered)).2 name) =
            true := by
  refine ⟨rfl, refines, fun s t => StringSet.beq_iff_mem, fun s t => ?_, ?_⟩
  · exact ⟨s.union_idem t, s.union_comm t⟩
  · intro sets name sources reordered hperm
    rw [StringSet.beq_iff_mem]
    intro x
    rw [mem_merges, mem_merges]
    simp only [hperm.mem_iff]

/-- Two orders of merging give the same strings in different orders. -/
theorem history_refines_sets_swapped :
    let sets := (empty.run [("ris", .insert "rrc00"), ("views", .insert "route-views2")]).2
    ["ris", "views"].Perm ["views", "ris"] ∧
      ((sets.run (merges "all" ["ris", "views"])).2 "all" ==
        (sets.run (merges "all" ["views", "ris"])).2 "all") = true := by
  intro sets
  have hperm : ["ris", "views"].Perm ["views", "ris"] := .swap _ _ _
  exact ⟨hperm, history_refines_sets.2.2.2.2 sets "all" ["ris", "views"] ["views", "ris"] hperm⟩

end NamedSets
end RoutingDump
