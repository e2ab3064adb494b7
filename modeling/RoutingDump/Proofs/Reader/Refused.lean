import RoutingDump.Proofs.Ascii.Ending
import RoutingDump.Proofs.Ascii.Interval
import RoutingDump.Proofs.Ascii.RoundTrip
import RoutingDump.Proofs.Filters.Edits

/-!
# Choices and refused resources

What a sequence of edits chooses does not depend on the order in which resources are chosen. The
decoder of a resource that the choice refuses never reads. So the reader of a refused dump that is
finite hands out one record that says so, if the dump can be opened at all.
-/

namespace RoutingDump
namespace Ascii

section Decoding

variable {S : Type} [Medium S] {d : Decoder S}

theorem answers_of_refused (h : d.task.accepted = false) (origin : Origin) (n : Nat) :
    (decoder S).answers origin n d =
      List.replicate n
        { outcome := .filteredDump, body := { status := .filteredSource }, state := d } := by
  induction n with
  | zero => rfl
  | succ n ih =>
    rw [RoutingDump.Decoder.answers, Decoder.decode_of_refused h]
    dsimp only
    rw [ih]
    rfl

theorem delivers_of_refused {ω : Type} {F : Format ω (Decoder S) String} {policy : RetryPolicy}
    {resource : Resource} {w : ω} (hdecoder : F.toDecoder = decoder S)
    (hfinite : resource.isLive = false) (hready : Opener.ready? F policy resource w = some d)
    (hrefused : d.task.accepted = false) :
    (Reader.start resource policy w).Delivers F
      [⟨resource.origin, { status := .filteredSource }⟩] := by
  have hpulls := Lookahead.finitePulls_opened (D := decoder S) (d := d) hfinite
  have hanswer : (decoder S).answer resource.origin d 0 =
      { outcome := .filteredDump, body := { status := .filteredSource }, state := d } :=
    Decoder.decode_of_refused hrefused _
  have houtcome := congrArg Decoded.outcome hanswer
  have hbody := congrArg Decoded.body hanswer
  have hends : EndsAt ((decoder S).answer resource.origin d) 0 :=
    ⟨.inr (congrArg Outcome.endsDump houtcome), fun j _ => Nat.zero_le j⟩
  intro n
  rw [Reader.pulls_ready hready, hdecoder]
  apply map_range_eq_take
  intro i
  rw [hpulls.reported 0 hends (.inl houtcome)]
  cases i with
  | zero =>
    rw [if_pos (Nat.le_refl 0), hbody]
    rfl
  | succ i =>
    rw [if_neg (Nat.not_succ_le_zero i)]
    rfl

end Decoding

/-- A factory that builds its decoders for one resource and one choice of filters. -/
structure BuildsFor {ω S : Type} [Medium S] (F : Format ω (Decoder S) String)
    (resource : Resource) (filters : Filters) : Prop where
  decoder_eq : F.toDecoder = decoder S
  opened : ∀ w d, (F.attempt w).attempt = .opened d →
    ∃ medium, d = .ofMedium medium resource filters

theorem buildsFor_fileFormat (resource : Resource) (filters : Filters) :
    BuildsFor (fileFormat resource filters) resource filters where
  decoder_eq := rfl
  opened t d h := by
    unfold fileFormat openDump at h
    dsimp only at h
    cases hfile : t.openFile (pathOf resource.url) with
    | error e =>
      rw [hfile] at h
      cases h
    | ok file =>
      rw [hfile] at h
      cases h
      exact ⟨file, rfl⟩

theorem buildsFor_mediumFormat (S : Type) [Medium S] (resource : Resource) (filters : Filters) :
    BuildsFor (mediumFormat S resource filters) resource filters where
  decoder_eq := rfl
  opened medium d h := by
    cases h
    exact ⟨medium, rfl⟩

end Ascii

namespace Filters

open Ascii

/-- What a choice made by the edits `es` comes to. -/
structure Choice (es : List Edit) : Prop where
  resource_iff : ∀ r, (ofEdits es).acceptsResource r = true ↔
    Passes es (.project r.project) ∧ Passes es (.collector r.collector) ∧
      Passes es (.recordType r.recordType)
  time_iff : ∀ time, (ofEdits es).acceptsTime time = true ↔
    ∀ start stop, (es.filterMap Edit.interval?).getLast? = some ⟨start, stop⟩ →
      start ≤ time ∧ ∀ last, stop = some last → time ≤ last
  /-- Neither the order nor the number of the choices of resources shows. -/
  reordered : ∀ es' : List Edit, (∀ e, e.kind ≠ .interval → (e ∈ es' ↔ e ∈ es)) →
    es'.filterMap Edit.interval? = es.filterMap Edit.interval? →
      (∀ r, (ofEdits es').acceptsResource r = (ofEdits es).acceptsResource r) ∧
        (∀ time, (ofEdits es').acceptsTime time = (ofEdits es).acceptsTime time) ∧
          ∀ r, Task.of r (ofEdits es') = Task.of r (ofEdits es)
  widened : ∀ e, (∃ first ∈ es, first.kind = e.kind) → ∀ r,
    (ofEdits es).acceptsResource r = true → (ofEdits (es ++ [e])).acceptsResource r = true
  narrowed : ∀ e, (∀ other ∈ es, other.kind ≠ e.kind) → ∀ r,
    (ofEdits (es ++ [e])).acceptsResource r = true → (ofEdits es).acceptsResource r = true

theorem acceptsResource_reordered {es es' : List Edit}
    (h : ∀ e, e.kind ≠ .interval → (e ∈ es' ↔ e ∈ es)) (r : Resource) :
    (ofEdits es').acceptsResource r = (ofEdits es).acceptsResource r := by
  apply Bool.eq_iff_iff.mpr
  rw [acceptsResource_ofEdits, acceptsResource_ofEdits]
  apply and_congr
  · exact Passes.congr (by simp [Edit.kind]) h
  · apply and_congr
    · exact Passes.congr (by simp [Edit.kind]) h
    · exact Passes.congr (by simp [Edit.kind]) h

theorem choice (es : List Edit) : Choice es := by
  constructor
  case resource_iff => exact acceptsResource_ofEdits es
  case time_iff => exact acceptsTime_ofEdits es
  case reordered =>
    intro es' hmem hintervals
    have hresource := acceptsResource_reordered hmem
    have hinterval : (ofEdits es').interval = (ofEdits es).interval := by
      rw [interval_ofEdits, interval_ofEdits, hintervals]
    refine ⟨hresource, fun time => ?_, fun r => ?_⟩
    · unfold acceptsTime
      rw [hinterval]
    · unfold Task.of
      rw [hinterval, hresource]
  case widened =>
    intro e hkind r h
    rw [acceptsResource_ofEdits] at h ⊢
    exact ⟨h.1.widen hkind, h.2.1.widen hkind, h.2.2.widen hkind⟩
  case narrowed =>
    intro e hkind r h
    rw [acceptsResource_ofEdits] at h ⊢
    exact ⟨h.1.narrow hkind, h.2.1.narrow hkind, h.2.2.narrow hkind⟩

/-- What becomes of a resource that the filters refuse. -/
structure Refusal (filters : Filters) : Prop where
  /-- A call changes nothing, so every call is answered like the first one. -/
  decode_eq : ∀ {S : Type} [Medium S] (medium : S) (resource : Resource),
    filters.acceptsResource resource = false → ∀ record : Record String,
      (decoder S).decode (.ofMedium medium resource filters) record =
        { outcome := .filteredDump, body := { record.body with status := .filteredSource }
          state := .ofMedium medium resource filters }
  answers_eq : ∀ {S : Type} [Medium S] (medium : S) (resource : Resource),
    filters.acceptsResource resource = false → ∀ (origin : Origin) (n : Nat),
      (decoder S).answers origin n (.ofMedium medium resource filters) =
        List.replicate n
          { outcome := .filteredDump, body := { status := .filteredSource }
            state := .ofMedium medium resource filters }
  /-- One record is all there is of a finite dump, unless it cannot even be opened. -/
  delivers_iff : ∀ {ω S : Type} [Medium S] (F : Format ω (Ascii.Decoder S) String)
    (policy : RetryPolicy) (resource : Resource) (w : ω), BuildsFor F resource filters →
      resource.isLive = false → filters.acceptsResource resource = false →
        ((Reader.start resource policy w).Delivers F
            [⟨resource.origin, { status := .filteredSource }⟩] ↔
          ((Reader.start resource policy w).openWait F).value.1 = .ok ())
  file : ∀ resource, BuildsFor (fileFormat resource filters) resource filters
  medium : ∀ (S : Type) [Medium S] resource,
    BuildsFor (mediumFormat S resource filters) resource filters

theorem refusal (filters : Filters) : filters.Refusal := by
  constructor
  case decode_eq =>
    intro S _ medium resource hrefused record
    exact Decoder.decode_of_refused hrefused record
  case answers_eq =>
    intro S _ medium resource hrefused origin n
    exact answers_of_refused hrefused origin n
  case delivers_iff =>
    intro ω S _ F policy resource w hF hfinite hrefused
    rw [Reader.openWait_ok_iff]
    constructor
    · intro hdelivers
      cases hready : Opener.ready? F policy resource w with
      | some d => exact ⟨d, rfl⟩
      | none =>
        have hfirst := hdelivers 1
        rw [Reader.pulls_of_not_ready hready] at hfirst
        cases hfirst
    · rintro ⟨d, hready⟩
      obtain ⟨w', hattempt⟩ := attempt_of_ready hF.decoder_eq hready
      obtain ⟨medium, rfl⟩ := hF.opened w' d hattempt
      exact delivers_of_refused hF.decoder_eq hfinite hready hrefused
  case file =>
    intro resource
    exact buildsFor_fileFormat resource filters
  case medium =>
    intro S _ resource
    exact buildsFor_mediumFormat S resource filters

/-- A choice is a set of entries and the last interval, and what it refuses is never read. -/
theorem choice_of_edits (es : List Edit) : Choice es ∧ (ofEdits es).Refusal :=
  ⟨choice es, refusal (ofEdits es)⟩

end Filters
end RoutingDump
