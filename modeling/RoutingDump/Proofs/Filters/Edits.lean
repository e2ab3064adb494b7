import Mathlib.Data.List.Induction
import RoutingDump.Filters
import RoutingDump.Proofs.StringSet.Elements

/-!
# What a sequence of edits chooses

An empty set accepts everything and any other set what is in it, so the first edit of a kind narrows
the choice and the later ones widen it. Still the result depends on the edits alone and not on their
order: a value passes if it was chosen, or if nothing of its kind was. Only intervals replace each
other, and the last one counts.
-/

namespace RoutingDump
namespace Filters

/-- What an edit is about. -/
inductive Kind where
  | project
  | collector
  | recordType
  | interval
  deriving DecidableEq

namespace Edit

def kind : Edit → Kind
  | .project _ => .project
  | .collector _ => .collector
  | .recordType _ => .recordType
  | .interval _ _ => .interval

def interval? : Edit → Option TimeInterval
  | .interval start stop => some ⟨start, stop⟩
  | .project _ | .collector _ | .recordType _ => none

end Edit

/-- The value that `wanted` would choose passes the edits `es`: it was chosen, or nothing of its
kind was. -/
def Passes (es : List Edit) (wanted : Edit) : Prop :=
  (∀ e ∈ es, e.kind ≠ wanted.kind) ∨ wanted ∈ es

namespace Passes

variable {es : List Edit} {e wanted : Edit}

/-- An edit after the first of its kind takes nothing away. -/
theorem widen (hkind : ∃ first ∈ es, first.kind = e.kind) (h : Passes es wanted) :
    Passes (es ++ [e]) wanted := by
  rcases h with hnone | hchosen
  · obtain ⟨first, hfirst, hsame⟩ := hkind
    have hother := hnone first hfirst
    rw [hsame] at hother
    left
    intro e' he'
    rcases List.mem_append.mp he' with he' | he'
    · exact hnone e' he'
    · rw [List.mem_singleton.mp he']
      exact hother
  · exact .inr (List.mem_append_left [e] hchosen)

/-- The first edit of its kind adds nothing. -/
theorem narrow (hkind : ∀ other ∈ es, other.kind ≠ e.kind) (h : Passes (es ++ [e]) wanted) :
    Passes es wanted := by
  rcases h with hnone | hchosen
  · left
    intro e' he'
    exact hnone e' (List.mem_append_left [e] he')
  · rcases List.mem_append.mp hchosen with hchosen | hchosen
    · exact .inr hchosen
    · rw [List.mem_singleton.mp hchosen]
      exact .inl hkind

theorem congr {es' : List Edit} (hwanted : wanted.kind ≠ .interval)
    (h : ∀ e, e.kind ≠ .interval → (e ∈ es' ↔ e ∈ es)) : Passes es' wanted ↔ Passes es wanted := by
  have hnone : (∀ e ∈ es', e.kind ≠ wanted.kind) ↔ ∀ e ∈ es, e.kind ≠ wanted.kind := by
    apply forall_congr'
    intro e
    by_cases hkind : e.kind = wanted.kind
    · rw [h e (hkind ▸ hwanted)]
    · simp [hkind]
  unfold Passes
  rw [hnone, h wanted hwanted]

end Passes

theorem ofEdits_concat (es : List Edit) (e : Edit) : ofEdits (es ++ [e]) = (ofEdits es).edit e :=
  List.foldl_concat ..

/-- What holds after an edit if it held before, or if the edit is `chosen`, holds in the end if
`chosen` is among the edits. -/
theorem ofEdits_iff_mem {p : Filters → Prop} {chosen : Edit} (hnothing : ¬ p {})
    (hedit : ∀ f e, p (f.edit e) ↔ p f ∨ e = chosen) (es : List Edit) :
    p (ofEdits es) ↔ chosen ∈ es := by
  induction es using List.reverseRecOn with
  | nil => exact iff_of_false hnothing List.not_mem_nil
  | append_singleton es e ih =>
    rw [ofEdits_concat, hedit, ih, List.mem_append, List.mem_singleton, eq_comm]

theorem mem_projects_ofEdits {es : List Edit} {name : String} :
    name ∈ (ofEdits es).projects ↔ .project name ∈ es := by
  apply ofEdits_iff_mem (p := fun f => name ∈ f.projects)
  · exact List.not_mem_nil
  · intro f e
    cases e with
    | project other => simp [edit, addProject, StringSet.mem_insert, or_comm, eq_comm]
    | collector other => simp [edit, addCollector]
    | recordType t => simp [edit, addRecordType]
    | interval start stop => simp [edit, setInterval]

theorem mem_collectors_ofEdits {es : List Edit} {name : String} :
    name ∈ (ofEdits es).collectors ↔ .collector name ∈ es := by
  apply ofEdits_iff_mem (p := fun f => name ∈ f.collectors)
  · exact List.not_mem_nil
  · intro f e
    cases e with
    | collector other => simp [edit, addCollector, StringSet.mem_insert, or_comm, eq_comm]
    | project other => simp [edit, addProject]
    | recordType t => simp [edit, addRecordType]
    | interval start stop => simp [edit, setInterval]

theorem mem_recordTypes_ofEdits {es : List Edit} {t : RecordType} :
    t ∈ (ofEdits es).recordTypes ↔ .recordType t ∈ es := by
  apply ofEdits_iff_mem (p := fun f => t ∈ f.recordTypes)
  · exact List.not_mem_nil
  · intro f e
    cases e with
    | recordType other =>
      by_cases hknown : other ∈ f.recordTypes
      · have hsame : (f.edit (.recordType other)).recordTypes = f.recordTypes := by
          simp [edit, addRecordType, hknown]
        rw [hsame]
        refine ⟨.inl, fun h => h.elim id fun heq => ?_⟩
        cases heq
        exact hknown
      · have hmore : (f.edit (.recordType other)).recordTypes = other :: f.recordTypes := by
          simp [edit, addRecordType, hknown]
        rw [hmore]
        simp [or_comm, eq_comm]
    | project other => simp [edit, addProject]
    | collector other => simp [edit, addCollector]
    | interval start stop => simp [edit, setInterval]

theorem interval_ofEdits (es : List Edit) :
    (ofEdits es).interval = (es.filterMap Edit.interval?).getLast? := by
  induction es using List.reverseRecOn with
  | nil => rfl
  | append_singleton es e ih =>
    rw [ofEdits_concat, List.filterMap_append]
    cases e with
    | interval start stop =>
      show some (TimeInterval.mk start stop) =
        (es.filterMap Edit.interval? ++ [TimeInterval.mk start stop]).getLast?
      rw [List.getLast?_concat]
    | project _ | collector _ | recordType _ =>
      show (ofEdits es).interval = (es.filterMap Edit.interval? ++ []).getLast?
      rw [List.append_nil, ih]

/-- Each of the three tests of a resource: an empty choice passes all. -/
theorem none_or_chosen_iff {α : Type} {es : List Edit} {chosen : α → Prop} {choose : α → Edit}
    {x : α} (hchosen : ∀ y, chosen y ↔ choose y ∈ es)
    (hkind : ∀ e : Edit, e.kind = (choose x).kind ↔ ∃ y, e = choose y) :
    (∀ y, ¬ chosen y) ∨ chosen x ↔ Passes es (choose x) := by
  have hnone : (∀ y, ¬ chosen y) ↔ ∀ e ∈ es, e.kind ≠ (choose x).kind := by
    constructor
    · intro h e he hsame
      obtain ⟨y, rfl⟩ := (hkind e).mp hsame
      exact h y ((hchosen y).mpr he)
    · intro h y hy
      exact h (choose y) ((hchosen y).mp hy) ((hkind _).mpr ⟨y, rfl⟩)
  rw [hnone, hchosen, Passes]

theorem acceptsResource_ofEdits (es : List Edit) (r : Resource) :
    (ofEdits es).acceptsResource r = true ↔
      Passes es (.project r.project) ∧ Passes es (.collector r.collector) ∧
        Passes es (.recordType r.recordType) := by
  unfold acceptsResource
  rw [Bool.and_eq_true, Bool.and_eq_true, Bool.or_eq_true, Bool.or_eq_true, Bool.or_eq_true,
    StringSet.isEmpty_iff, StringSet.isEmpty_iff, StringSet.contains_iff, StringSet.contains_iff,
    List.isEmpty_iff, List.eq_nil_iff_forall_not_mem, List.contains_iff_mem, and_assoc]
  rw [none_or_chosen_iff fun _ => mem_projects_ofEdits,
    none_or_chosen_iff fun _ => mem_collectors_ofEdits,
    none_or_chosen_iff fun _ => mem_recordTypes_ofEdits]
  all_goals
    intro e
    cases e <;> simp [Edit.kind]

example :
    let r : Resource := ⟨"a.dump", "ris", "rrc00", .updates, 0, .finite 0⟩
    (ofEdits []).acceptsResource r = true ∧
      (ofEdits [.project "routeviews"]).acceptsResource r = false ∧
      (ofEdits [.project "routeviews", .project "ris"]).acceptsResource r = true := by decide

theorem acceptsTime_ofEdits (es : List Edit) (time : UInt32) :
    (ofEdits es).acceptsTime time = true ↔
      ∀ start stop, (es.filterMap Edit.interval?).getLast? = some ⟨start, stop⟩ →
        start ≤ time ∧ ∀ last, stop = some last → time ≤ last := by
  unfold acceptsTime
  rw [interval_ofEdits]
  cases (es.filterMap Edit.interval?).getLast? with
  | none => simp
  | some interval =>
    obtain ⟨start, stop⟩ := interval
    cases stop with
    | none => simp [TimeInterval.contains]
    | some stop => simp [TimeInterval.contains]

end Filters
end RoutingDump
