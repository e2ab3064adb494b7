import Mathlib.Data.Nat.Find
import RoutingDump.Proofs.Ascii.ByteDump
import RoutingDump.Proofs.Opening.Attempts
import RoutingDump.Proofs.Reader.Latch

/-!
# The end of a finite file

Whatever a finite file holds, its pulls come to an end. A segment comes to one call at most, so the
answer that ends the dump is among the first ones, as many as there are bytes and one more. What
cannot be read, as a directory, ends with its first call.
-/

namespace RoutingDump

variable {σ P : Type}

theorem exists_endsAt {a : Nat → Decoded σ P} {j : Nat}
    (h : (a j).outcome = .readError ∨ (a j).outcome.endsDump = true) :
    ∃ k ≤ j, EndsAt a k := by
  classical
  have hsome : ∃ j, (a j).outcome = .readError ∨ (a j).outcome.endsDump = true := ⟨j, h⟩
  exact ⟨Nat.find hsome, Nat.find_min' hsome h, Nat.find_spec hsome,
    fun m hm => Nat.find_min' hsome hm⟩

/-- At the end of a dump there are records in front, and then something else for good. -/
theorem FinitePulls.exists_end {resource : Resource} {a : Nat → Decoded σ P} {p : Nat → Pull P}
    (h : FinitePulls resource a p) {k : Nat} (hk : EndsAt a k) :
    ∃ n ≤ k + 1, (∀ i < n, ∃ record, p i = .ok record) ∧
      (p n = .endOfStream none ∨ p n = .error (.readFailed resource.url)) := by
  have hoff := hk.1
  by_cases hread : (a k).outcome = .readError
  · have hp := h.failed k hk hread
    cases k with
    | zero =>
      refine ⟨0, by omega, nofun, .inl ?_⟩
      rw [hp, if_neg (by omega), if_neg (by omega)]
    | succ k =>
      refine ⟨k, by omega, fun i hi => ⟨_, (hp i).trans (if_pos (by omega))⟩, .inr ?_⟩
      rw [hp, if_neg (by omega), if_pos rfl]
  · have hends := hoff.resolve_left hread
    by_cases hend : (a k).outcome = .endOfDump
    · have hp := h.ended k hk hend
      refine ⟨k, by omega, fun i hi => ⟨_, (hp i).trans (if_pos hi)⟩, .inl ?_⟩
      rw [hp, if_neg (Nat.lt_irrefl k)]
    · have hreport : (a k).outcome = .filteredDump ∨ (a k).outcome = .emptyDump ∨
          (a k).outcome = .corruptedDump := by
        revert hread hends hend
        cases (a k).outcome <;> decide
      have hp := h.reported k hk hreport
      refine ⟨k + 1, Nat.le_refl _, fun i hi => ⟨_, (hp i).trans (if_pos (by omega))⟩, .inl ?_⟩
      rw [hp, if_neg (by omega)]

namespace Ascii

theorem length_segments_le (bytes : List UInt8) : (segments bytes).length ≤ bytes.length := by
  induction bytes with
  | nil => exact Nat.le_refl _
  | cons b bs ih =>
    rw [segments]
    by_cases hb : b = Medium.lineFeed
    · rw [if_pos hb]
      exact Nat.succ_le_succ ih
    · rw [if_neg hb]
      cases hsegments : segments bs with
      | nil => exact Nat.succ_le_succ (Nat.zero_le _)
      | cons segment rest =>
        rw [hsegments] at ih
        exact Nat.le_succ_of_le ih

theorem length_callsFrom_le (interval : Option TimeInterval) (position : Position)
    (time : UInt32 × UInt32) (ss : List (List UInt8)) :
    (callsFrom interval position time ss).length ≤ ss.length := by
  induction ss generalizing position time with
  | nil => exact Nat.le_refl _
  | cons segment rest ih =>
    unfold callsFrom
    split
    · exact Nat.succ_le_succ (ih _ _)
    · exact Nat.le_succ_of_le (ih _ _)
    · exact Nat.le_succ_of_le (ih _ _)
    · exact Nat.succ_le_succ (ih _ _)
    · exact Nat.succ_le_succ (ih _ _)

theorem endsDump_dumpEnd (fs : List Finding) : (dumpEnd fs).1.endsDump = true := by
  unfold dumpEnd
  split
  · rfl
  · split <;> rfl

section Decoding

variable {S : Type} [Medium S] {s : S} {resource : Resource} {filters : Filters}

theorem exists_endsAt_of_serves {bytes : List UInt8} (origin : Origin)
    (hfinite : resource.isLive = false) (haccepts : filters.acceptsResource resource = true)
    (hserves : Medium.Serves s bytes) :
    ∃ k ≤ bytes.length,
      EndsAt ((decoder S).answer origin (.ofMedium s resource filters)) k := by
  have hahead : Ahead (.of resource filters) (.ofMedium s resource filters)
      (total (.of resource filters) [] bytes) (upcoming (.of resource filters) [] bytes) :=
    ⟨[], bytes, faces_ofMedium hserves resource filters, rfl, rfl⟩
  have hlength : (upcoming (.of resource filters) [] bytes).length ≤ bytes.length :=
    Nat.le_trans (length_callsFrom_le _ _ _ _) (length_segments_le bytes)
  have hanswer := congrArg Prod.fst (hahead.answer_eq hfinite haccepts origin
    (upcoming (.of resource filters) [] bytes).length)
  rw [List.getElem?_eq_none (Nat.le_refl _)] at hanswer
  have hends := (congrArg Outcome.endsDump hanswer).trans (endsDump_dumpEnd _)
  obtain ⟨k, hk, hend⟩ := exists_endsAt (.inr hends)
  exact ⟨k, Nat.le_trans hk hlength, hend⟩

/-- A medium that holds nothing but a fault fails its first call. -/
theorem readError_of_fault {e : IoError} (origin : Origin)
    (haccepts : filters.acceptsResource resource = true) (hnothing : Medium.pending s = [])
    (hending : Medium.ending s = some e) :
    ((decoder S).answer origin (.ofMedium s resource filters) 0).outcome = .readError := by
  obtain ⟨rest, hread, -, -⟩ := Medium.readLine_bytes_end (l := []) List.not_mem_nil hnothing
  have hdecode : (decoder S).answer origin (.ofMedium s resource filters) 0 =
      (Decoder.ofMedium s resource filters).answer .blank :=
    Decoder.decode_of_accepted haccepts origin
  have hround : (Decoder.ofMedium s resource filters).round .blank =
      ({ Decoder.ofMedium s resource filters with medium := rest } : Decoder S).failed
        .blank e := by
    unfold Decoder.round Decoder.ofMedium
    rw [hread, hending]
    rfl
  rw [hdecode, Decoder.answer_of_answer hround]

theorem filteredDump_of_refused (origin : Origin)
    (hrefused : filters.acceptsResource resource = false) :
    ((decoder S).answer origin (.ofMedium s resource filters) 0).outcome = .filteredDump :=
  congrArg Decoded.outcome (Decoder.decode_of_refused hrefused _)

end Decoding

theorem exists_endsAt_of_file (t : FileTree) (place : Option Nat) {resource : Resource}
    (filters : Filters) (origin : Origin) (hfinite : resource.isLive = false) :
    let f : OpenFile := { tree := t, place := place }
    ∃ k ≤ f.unread.length,
      EndsAt ((decoder OpenFile).answer origin (.ofMedium f resource filters)) k := by
  intro f
  cases haccepts : filters.acceptsResource resource with
  | false =>
    have houtcome := filteredDump_of_refused (s := f) origin haccepts
    obtain ⟨k, hk, hend⟩ := exists_endsAt (.inr (congrArg Outcome.endsDump houtcome))
    exact ⟨k, by omega, hend⟩
  | true =>
    cases place with
    | none =>
      have houtcome := readError_of_fault (s := f) origin haccepts rfl rfl
      obtain ⟨k, hk, hend⟩ := exists_endsAt (.inl houtcome)
      exact ⟨k, by omega, hend⟩
    | some place => exact exists_endsAt_of_serves origin hfinite haccepts ⟨rfl, rfl⟩

variable {t : FileTree} {resource : Resource} (filters : Filters) (policy : RetryPolicy)

theorem ready?_of_openFile {f : OpenFile} (h : t.openFile (pathOf resource.url) = .ok f) :
    Opener.ready? (fileFormat resource filters) policy resource t =
      some (.ofMedium f resource filters) := by
  refine Opener.ready?_of_opened ?_ rfl rfl
  simp only [fileFormat, openDump, h]

/-- An attempt leaves the tree as it is, so if one of them fails, then all of them do. -/
theorem ready?_of_unopened {e : IoError} (h : t.openFile (pathOf resource.url) = .error e) :
    Opener.ready? (fileFormat resource filters) policy resource t = none := by
  have hattempt : (fileFormat resource filters).attempt t =
      { attempt := .failed (.cannotOpen resource.url e), surroundings := t } := by
    simp only [fileFormat, openDump, h]
  have hsame (i : Nat) : (fileFormat resource filters).afterCalls t i = t := by
    induction i with
    | zero => rfl
    | succ i ih => rw [Format.afterCalls_succ, Format.response, ih, hattempt]
  have hfails : (fileFormat resource filters).FailsWith t
      (List.replicate policy.attempts (.cannotOpen resource.url e)) := by
    intro i e' he'
    obtain ⟨-, rfl⟩ := List.mem_replicate.mp (List.mem_of_getElem? he')
    rw [Format.response, hsame, hattempt]
  have hretry := Opener.retry_failures policy resource.url hfails (fun _ _ => rfl) 0
  rw [List.length_replicate, Nat.add_zero] at hretry
  rw [Opener.ready?, hretry]
  rfl

end Ascii

/-! ### Pulls of a reader -/

namespace Reader

open Ascii

/-- A reader whose open came to nothing hands out no record. -/
theorem pulls_of_not_ready {ω : Type} {F : Format ω σ P} {policy : RetryPolicy}
    {resource : Resource} {w : ω} (h : Opener.ready? F policy resource w = none) :
    (start resource policy w).pulls F 1 = [.endOfStream (some (.ofFailedOpen resource))] := by
  obtain ⟨crashed, hphase⟩ := resolve_not_ready h
  have hresource := resource_resolve (F := F) (start resource policy w)
  show [((start resource policy w).next F).value.1] = _
  unfold next
  generalize (start resource policy w).resolve F = r at hphase hresource ⊢
  obtain ⟨events, r⟩ := r
  dsimp only at hphase hresource ⊢
  rw [hphase]
  dsimp only
  rw [hresource]
  rfl

variable {t : FileTree} {resource : Resource} (filters : Filters) (policy : RetryPolicy)

theorem exists_records {P : Type} {p : Nat → Pull P} {n : Nat}
    (h : ∀ i < n, ∃ record, p i = .ok record) :
    ∃ records : List (Record P), records.length = n ∧ (List.range n).map p = records.map .ok := by
  induction n with
  | zero => exact ⟨[], rfl, rfl⟩
  | succ n ih =>
    obtain ⟨records, hlength, hrecords⟩ := ih fun i hi => h i (Nat.lt_succ_of_lt hi)
    obtain ⟨record, hrecord⟩ := h n (Nat.lt_succ_self n)
    refine ⟨records ++ [record], by rw [List.length_append, hlength]; rfl, ?_⟩
    rw [List.range_succ, List.map_append, List.map_append, hrecords, List.map_singleton, hrecord]
    rfl

/-- A finite file that opens gives records, at most one more than it has bytes, and then its end. -/
theorem pulls_of_openFile (hfinite : resource.isLive = false) {f : OpenFile}
    (h : t.openFile (pathOf resource.url) = .ok f) :
    ∃ (records : List (Record String)) (final : Pull String),
      records.length ≤ f.unread.length + 1 ∧
      (start resource policy t).pulls (fileFormat resource filters) (records.length + 1) =
        records.map .ok ++ [final] ∧
      (final = .endOfStream none ∨ final = .error (.readFailed resource.url)) := by
  have hready := ready?_of_openFile filters policy h
  obtain ⟨k, hk, hend⟩ : ∃ k ≤ f.unread.length,
      EndsAt ((decoder OpenFile).answer resource.origin (.ofMedium f resource filters)) k := by
    unfold FileTree.openFile at h
    split at h
    · cases h
    · cases h
      exact exists_endsAt_of_file t _ filters resource.origin hfinite
  obtain ⟨n, hn, hrecords, hfinal⟩ := (Lookahead.finitePulls_opened hfinite).exists_end hend
  obtain ⟨records, rfl, hmap⟩ := exists_records hrecords
  refine ⟨records, _, by omega, ?_, hfinal⟩
  rw [pulls_ready hready, List.range_succ, List.map_append]
  exact congrArg (· ++ _) hmap

theorem openWait_of_openFile {f : OpenFile} (h : t.openFile (pathOf resource.url) = .ok f) :
    ((start resource policy t).openWait (fileFormat resource filters)).value.1 = .ok () :=
  openWait_ok_iff.mpr ⟨_, ready?_of_openFile filters policy h⟩

theorem pulls_of_unopened {e : IoError} (h : t.openFile (pathOf resource.url) = .error e) :
    ((start resource policy t).openWait (fileFormat resource filters)).value.1 =
        .error (.cannotOpen resource.url) ∧
      (start resource policy t).pulls (fileFormat resource filters) 1 =
        [.endOfStream (some (.ofFailedOpen resource))] := by
  have hready := ready?_of_unopened filters policy h
  obtain ⟨crashed, hphase⟩ := resolve_not_ready hready
  have hresource := resource_resolve (F := fileFormat resource filters) (start resource policy t)
  refine ⟨?_, pulls_of_not_ready hready⟩
  unfold openWait
  generalize (start resource policy t).resolve (fileFormat resource filters) = r
    at hphase hresource ⊢
  obtain ⟨events, r⟩ := r
  dsimp only at hphase hresource ⊢
  rw [hphase]
  dsimp only
  rw [hresource]
  rfl

end Reader
end RoutingDump
