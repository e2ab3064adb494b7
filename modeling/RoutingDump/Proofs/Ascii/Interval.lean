import RoutingDump.Proofs.Ascii.FiniteDump

/-!
# Dumps read during an interval

An interval passes over whole lines, and what a line amounts to otherwise does not depend on it. A
dump read during an interval therefore delivers what it delivers during any wider one, without the
valid records whose second lies outside. Only what a record says of the records around it may
differ: its position, and the time of a placeholder.
-/

namespace RoutingDump

/-- The same choice of resources with another interval, or with none. -/
def Filters.during (f : Filters) (interval : Option TimeInterval) : Filters :=
  { f with interval := interval }

/-- Pulls hand out the given records, and then the stream has ended for good. -/
def Reader.Delivers {ω σ P : Type} (F : Format ω σ P) (r : Reader ω σ P)
    (records : List (Record P)) : Prop :=
  ∀ n, r.pulls F n = (records.map Pull.ok ++ List.replicate n (Pull.endOfStream none)).take n

/-- Pulls tell all that is delivered. -/
theorem Reader.Delivers.unique {ω σ P : Type} {F : Format ω σ P} {r : Reader ω σ P}
    {as bs : List (Record P)} (ha : r.Delivers F as) (hb : r.Delivers F bs) : as = bs := by
  have hrecords (rs : List (Record P)) (n : Nat) :
      ((rs.map Pull.ok ++ List.replicate n (Pull.endOfStream none)).take n).filterMap
        Pull.record? = rs.take n := by
    rw [Ascii.filterMap_take_replicate rfl, ← List.map_take, List.filterMap_map]
    exact List.filterMap_some
  have hpulls := (ha (as.length + bs.length)).symm.trans (hb (as.length + bs.length))
  have htake := congrArg (List.filterMap Pull.record?) hpulls
  rw [hrecords, hrecords, List.take_of_length_le (Nat.le_add_right _ _),
    List.take_of_length_le (Nat.le_add_left _ _)] at htake
  exact htake

namespace Ascii

/-- What a record says of its own line. The time of a placeholder is that of a record in front of
it and does not count. -/
structure Gist where
  status : RecordStatus
  payload : Option String
  time : Option (UInt32 × UInt32)
  deriving DecidableEq

def gist (b : Body String) : Gist where
  status := b.status
  payload := b.payload
  time := if b.status = .valid then some (b.sec, b.usec) else none

/-- Whether the filters leave a record in place. Only valid records have a time to go by. -/
def keeps (filters : Filters) (b : Body String) : Bool :=
  b.status != .valid || filters.acceptsTime b.sec

/-- Whether a record comes from a line and not from the dump as a whole. -/
def ofLine (b : Body String) : Bool := b.status == .valid || b.status == .corruptedRecord

namespace Gist

/-- Whether an interval leaves a record in place. -/
def passes (interval : Option TimeInterval) (g : Gist) : Bool :=
  g.time.all fun time => (interval.map (·.contains time.1)).getD true

def ofLine (g : Gist) : Bool := g.status == .valid || g.status == .corruptedRecord

end Gist

theorem passes_gist (filters : Filters) (interval : Option TimeInterval) (b : Body String) :
    (gist b).passes interval = keeps (filters.during interval) b := by
  unfold gist keeps Gist.passes
  by_cases hvalid : b.status = .valid
  · rw [if_pos hvalid, hvalid]
    cases interval <;> rfl
  · rw [if_neg hvalid, bne_iff_ne.mpr hvalid]
    rfl

/-! ### Findings -/

namespace Finding

/-- What becomes of a finding if the dump is read during an interval. -/
def during (interval : Option TimeInterval) : Finding → Finding
  | .record l => if (interval.map (·.contains l.sec)).getD true then .record l else .outside
  | .placeholder => .placeholder
  | .outside => .outside

def gist? : Finding → Option Gist
  | .record l =>
    some
      { status := .valid, payload := some (String.ofList l.body), time := some (l.sec, l.usec) }
  | .placeholder => some { status := .corruptedRecord, payload := none, time := none }
  | .outside => none

theorem of_eq_during (interval : Option TimeInterval) (text : List Char) :
    of interval text = (of none text).during interval := by
  unfold of
  cases parseLine? text <;> rfl

theorem gist?_during (interval : Option TimeInterval) (f : Finding) :
    (f.during interval).gist? = f.gist?.filter (Gist.passes interval) := by
  cases f with
  | record l =>
    rw [during]
    by_cases hinside : (interval.map (·.contains l.sec)).getD true = true
    · rw [if_pos hinside]
      exact (if_pos hinside).symm
    · rw [if_neg hinside]
      exact (if_neg hinside).symm
  | placeholder | outside => rfl

theorem gist?_of_ne_none (text : List Char) : (of none text).gist? ≠ none := by
  unfold of
  cases parseLine? text <;> nofun

theorem time_of_gist? {f : Finding} {g : Gist} (h : f.gist? = some g)
    (hplaceholder : g.status = .corruptedRecord) : g.time = none := by
  cases f <;> cases h
  · cases hplaceholder
  · rfl

end Finding

theorem findings_during (interval : Option TimeInterval) (ls : List (List Char)) :
    findings interval ls = (findings none ls).map (Finding.during interval) := by
  have hline (l : List Char) :
      Finding.of? interval l = (Finding.of? none l).map (Finding.during interval) := by
    unfold Finding.of?
    dsimp only
    split
    · rfl
    · exact congrArg some (Finding.of_eq_during interval _)
  rw [findings, findings, List.map_filterMap]
  exact congrArg (List.filterMap · ls) (funext hline)

/-- What the lines of a dump amount to if no interval is set. -/
def lineGists (ls : List (List Char)) : List Gist := (findings none ls).filterMap Finding.gist?

theorem filterMap_gist?_findings (interval : Option TimeInterval) (ls : List (List Char)) :
    (findings interval ls).filterMap Finding.gist? =
      (lineGists ls).filter (Gist.passes interval) := by
  have hfinding :
      Finding.gist? ∘ Finding.during interval =
        fun f => f.gist?.filter (Gist.passes interval) :=
    funext (Finding.gist?_during interval)
  rw [findings_during, List.filterMap_map, hfinding, lineGists, List.filter_filterMap]

theorem lineGists_eq_nil_iff {ls : List (List Char)} :
    lineGists ls = [] ↔ findings none ls = [] := by
  constructor
  · intro h
    refine List.eq_nil_iff_forall_not_mem.mpr fun f hf => ?_
    have hnone := List.filterMap_eq_nil_iff.mp h f hf
    obtain ⟨l, -, hl⟩ := List.mem_filterMap.mp hf
    unfold Finding.of? at hl
    dsimp only at hl
    split at hl
    · cases hl
    · cases hl
      exact Finding.gist?_of_ne_none _ hnone
  · intro h
    rw [lineGists, h]
    rfl

/-! ### Records -/

theorem gists_reportsFrom (position : Position) (time : UInt32 × UInt32) (fs : List Finding) :
    (reportsFrom position time fs).map gist = fs.filterMap Finding.gist? := by
  induction fs generalizing position time with
  | nil => rfl
  | cons f fs ih =>
    cases f with
    | record l => exact congrArg (_ :: ·) (ih .middle (l.sec, l.usec))
    | placeholder => exact congrArg (_ :: ·) (ih .middle time)
    | outside => exact ih position time

theorem gists_closeLast (bs : List (Body String)) : (closeLast bs).map gist = bs.map gist := by
  refine List.ext_getElem? fun i => ?_
  rw [List.getElem?_map, getElem?_closeLast, List.getElem?_map, Option.map_map]
  refine congrArg (Option.map · bs[i]?) (funext fun b => ?_)
  show gist (if i + 1 = bs.length then b.asLast else b) = gist b
  split <;> rfl

/-- The gist of a record that stands for a whole dump. -/
def sourceGist (status : RecordStatus) : Gist where
  status := status
  payload := none
  time := none

variable (ls : List (List Char)) (interval : Option TimeInterval)

theorem dumpRecords_of_blank (h : lineGists ls = []) :
    dumpRecords (findings interval ls) = [{ status := .emptySource, position := .last }] := by
  rw [findings_during, lineGists_eq_nil_iff.mp h]
  rfl

theorem reports_eq_nil_iff_filter :
    reports (findings interval ls) = [] ↔ (lineGists ls).filter (Gist.passes interval) = [] := by
  rw [← filterMap_gist?_findings, ← gists_reportsFrom .first (0, 0), List.map_eq_nil_iff]
  rfl

theorem findings_ne_nil (h : lineGists ls ≠ []) : findings interval ls ≠ [] := by
  rw [findings_during]
  exact mt List.map_eq_nil_iff.mp (mt lineGists_eq_nil_iff.mpr h)

theorem dumpRecords_of_filtered (h : lineGists ls ≠ [])
    (hnone : (lineGists ls).filter (Gist.passes interval) = []) :
    dumpRecords (findings interval ls) = [{ status := .filteredSource, position := .last }] := by
  rw [dumpRecords, if_neg (findings_ne_nil ls interval h),
    if_pos ((reports_eq_nil_iff_filter ls interval).mpr hnone)]

theorem gists_dumpRecords (h : (lineGists ls).filter (Gist.passes interval) ≠ []) :
    (dumpRecords (findings interval ls)).map gist =
      (lineGists ls).filter (Gist.passes interval) := by
  have hsome : lineGists ls ≠ [] := by
    intro hnil
    rw [hnil] at h
    exact h rfl
  have hreports :
      (reports (findings interval ls)).map gist = (lineGists ls).filter (Gist.passes interval) :=
    (gists_reportsFrom .first (0, 0) _).trans (filterMap_gist?_findings interval ls)
  rw [dumpRecords, if_neg (findings_ne_nil ls interval hsome),
    if_neg (mt (reports_eq_nil_iff_filter ls interval).mp h)]
  split
  · exact hreports
  · rw [gists_closeLast, hreports]

/-- A choice of records that leaves out those that stand for a whole dump is a choice of lines. -/
theorem filter_gists_dumpRecords {p : Gist → Bool} (hp : ∀ g, p g = true → g.ofLine = true) :
    ((dumpRecords (findings interval ls)).map gist).filter p =
      ((lineGists ls).filter (Gist.passes interval)).filter p := by
  have hsource {status : RecordStatus} (hstatus : (sourceGist status).ofLine = false) :
      [sourceGist status].filter p = [] := by
    refine List.filter_eq_nil_iff.mpr fun g hg htrue => ?_
    cases List.mem_singleton.mp hg
    rw [hp _ htrue] at hstatus
    cases hstatus
  by_cases hblank : lineGists ls = []
  · rw [dumpRecords_of_blank ls interval hblank, hblank]
    exact hsource rfl
  · by_cases hnone : (lineGists ls).filter (Gist.passes interval) = []
    · rw [dumpRecords_of_filtered ls interval hblank hnone, hnone]
      exact hsource rfl
    · rw [gists_dumpRecords ls interval hnone]

theorem filter_dumpRecords {q : Body String → Bool} {p : Gist → Bool} (hq : ∀ b, q b = p (gist b))
    (hp : ∀ g, p g = true → g.ofLine = true) :
    ((dumpRecords (findings interval ls)).filter q).map gist =
      ((lineGists ls).filter (Gist.passes interval)).filter p := by
  have hcomp : q = p ∘ gist := funext hq
  rw [hcomp, ← List.filter_map, filter_gists_dumpRecords ls interval hp]

/-! ### Two intervals -/

section Two

variable (filters : Filters) (i j : Option TimeInterval)

theorem accepts_iff (time : UInt32) :
    (filters.during i).acceptsTime time = (i.map (·.contains time)).getD true := by
  cases i <;> rfl

variable {i j} (hwider : ∀ time, (filters.during i).acceptsTime time = true →
  (filters.during j).acceptsTime time = true)

include hwider

theorem passes_of_wider {g : Gist} (h : g.passes i = true) : g.passes j = true := by
  unfold Gist.passes at h ⊢
  cases htime : g.time with
  | none => rfl
  | some time =>
    rw [htime] at h
    have hinside := hwider time.1
    rw [accepts_iff, accepts_iff] at hinside
    exact hinside h

theorem filter_passes_of_wider (gs : List Gist) :
    (gs.filter (Gist.passes j)).filter (Gist.passes i) = gs.filter (Gist.passes i) := by
  rw [List.filter_filter]
  refine List.filter_congr fun g _ => ?_
  cases h : g.passes i with
  | false => rfl
  | true => exact passes_of_wider filters hwider h

/-- A dump delivers during an interval what it delivers during a wider one, without the valid
records outside. -/
theorem dumpRecords_narrowed :
    let kept := (dumpRecords (findings j ls)).filter (keeps (filters.during i))
    if kept = [] then
      dumpRecords (findings i ls) = [{ status := .filteredSource, position := .last }]
    else (dumpRecords (findings i ls)).map gist = kept.map gist := by
  intro kept
  have hkept : kept.map gist =
      ((dumpRecords (findings j ls)).map gist).filter (Gist.passes i) := by
    have hcomp : keeps (filters.during i) = Gist.passes i ∘ gist :=
      funext fun b => (passes_gist filters i b).symm
    show (List.filter _ _).map gist = _
    rw [hcomp, List.filter_map]
  have hnil : kept = [] ↔ kept.map gist = [] := List.map_eq_nil_iff.symm
  by_cases hblank : lineGists ls = []
  · rw [dumpRecords_of_blank ls j hblank] at hkept
    rw [if_neg (by rw [hnil, hkept]; nofun), hkept, dumpRecords_of_blank ls i hblank]
    rfl
  · by_cases hnone : (lineGists ls).filter (Gist.passes j) = []
    -- Nothing passes the wider interval either, so the one record says so both times.
    · have hnone' : (lineGists ls).filter (Gist.passes i) = [] := by
        rw [← filter_passes_of_wider filters hwider, hnone]
        rfl
      rw [dumpRecords_of_filtered ls j hblank hnone] at hkept
      rw [if_neg (by rw [hnil, hkept]; nofun), hkept, dumpRecords_of_filtered ls i hblank hnone']
      rfl
    · rw [gists_dumpRecords ls j hnone, filter_passes_of_wider filters hwider] at hkept
      by_cases hnone' : (lineGists ls).filter (Gist.passes i) = []
      · rw [if_pos (by rw [hnil, hkept, hnone'])]
        exact dumpRecords_of_filtered ls i hblank hnone'
      · rw [if_neg (by rw [hnil, hkept]; exact hnone'), hkept, gists_dumpRecords ls i hnone']

theorem valid_sublist :
    (((dumpRecords (findings i ls)).filter (·.status == .valid)).map gist).Sublist
      (((dumpRecords (findings j ls)).filter (·.status == .valid)).map gist) := by
  have hvalid (g : Gist) (h : (g.status == .valid) = true) : g.ofLine = true :=
    Bool.or_eq_true_iff.mpr (.inl h)
  have hgists (k : Option TimeInterval) :
      ((dumpRecords (findings k ls)).filter (·.status == .valid)).map gist =
        ((lineGists ls).filter (Gist.passes k)).filter (·.status == .valid) :=
    filter_dumpRecords ls k (fun _ => rfl) hvalid
  rw [hgists, hgists, ← filter_passes_of_wider filters hwider]
  exact List.filter_sublist.filter _

end Two

/-- Every interval leaves all placeholders in place. -/
theorem count_placeholders :
    (dumpRecords (findings interval ls)).countP (·.status == .corruptedRecord) =
      (lineGists ls).countP (·.status == .corruptedRecord) := by
  have hplaceholder (g : Gist) (h : (g.status == .corruptedRecord) = true) : g.ofLine = true :=
    Bool.or_eq_true_iff.mpr (.inr h)
  have hgists :
      ((dumpRecords (findings interval ls)).filter (·.status == .corruptedRecord)).map gist =
        ((lineGists ls).filter (Gist.passes interval)).filter (·.status == .corruptedRecord) :=
    filter_dumpRecords ls interval (fun _ => rfl) hplaceholder
  have hall :
      ((lineGists ls).filter (Gist.passes interval)).filter (·.status == .corruptedRecord) =
        (lineGists ls).filter (·.status == .corruptedRecord) := by
    rw [List.filter_filter]
    refine List.filter_congr fun g hg => ?_
    cases hstatus : g.status == .corruptedRecord with
    | false => rfl
    | true =>
      obtain ⟨f, -, hf⟩ := List.mem_filterMap.mp hg
      rw [Gist.passes, Finding.time_of_gist? hf (beq_iff_eq.mp hstatus)]
      rfl
  rw [List.countP_eq_length_filter, List.countP_eq_length_filter, ← hall, ← hgists,
    List.length_map]

/-- The records of the lines that both intervals leave in place. -/
theorem gists_in_both (filters : Filters) (i j : Option TimeInterval) :
    ((dumpRecords (findings i ls)).filter fun b => ofLine b && keeps (filters.during j) b).map
        gist =
      ((lineGists ls).filter (Gist.passes i)).filter fun g => g.ofLine && g.passes j := by
  refine filter_dumpRecords ls i (fun b => ?_) fun g hg => (Bool.and_eq_true_iff.mp hg).1
  rw [passes_gist filters]
  rfl

/-- What a dump delivers during each interval, where `delivered none` is what it delivers without
any. An interval is wider than another if it accepts whatever the other accepts, so no interval is
wider than none at all. -/
structure Narrowing (filters : Filters) (delivered : Option TimeInterval → List (Body String)) :
    Prop where
  narrowed : ∀ i j, (∀ time, (filters.during i).acceptsTime time = true →
      (filters.during j).acceptsTime time = true) →
    let kept := (delivered j).filter (keeps (filters.during i))
    if kept = [] then delivered i = [{ status := .filteredSource, position := .last }]
    else (delivered i).map gist = kept.map gist
  valid_sublist : ∀ i j, (∀ time, (filters.during i).acceptsTime time = true →
      (filters.during j).acceptsTime time = true) →
    (((delivered i).filter (·.status == .valid)).map gist).Sublist
      (((delivered j).filter (·.status == .valid)).map gist)
  placeholders : ∀ i j, (delivered i).countP (·.status == .corruptedRecord) =
    (delivered j).countP (·.status == .corruptedRecord)
  /-- The lines in common come in one order, whichever of two intervals is set. -/
  in_place : ∀ i j,
    ((delivered i).filter fun b => ofLine b && keeps (filters.during j) b).map gist =
      ((delivered j).filter fun b => ofLine b && keeps (filters.during i) b).map gist

theorem narrowing_dumpRecords (filters : Filters) :
    Narrowing filters fun interval => dumpRecords (findings interval ls) := by
  constructor
  case narrowed => exact fun i j hwider => dumpRecords_narrowed ls filters hwider
  case valid_sublist => exact fun i j hwider => valid_sublist ls filters hwider
  case placeholders =>
    intro i j
    rw [count_placeholders, count_placeholders]
  case in_place =>
    intro i j
    rw [gists_in_both, gists_in_both, List.filter_filter, List.filter_filter]
    refine List.filter_congr fun g _ => ?_
    rw [Bool.and_assoc, Bool.and_assoc, Bool.and_comm (g.passes j)]

/-- The factories for all choices of filters open a decoder at the front of one text. -/
def OpensText {ω S : Type} [Medium S] (F : Filters → Format ω (Decoder S) String)
    (policy : RetryPolicy) (resource : Resource) (w : ω) (text : List Char) : Prop :=
  ∀ filters, (F filters).toDecoder = decoder S ∧ ∃ medium, Medium.Holds medium text ∧
    Opener.ready? (F filters) policy resource w = some (.ofMedium medium resource filters)

theorem opensText_file {t : FileTree} {resource : Resource} {text : List Char}
    (h : t.HoldsText (pathOf resource.url) text) (policy : RetryPolicy) :
    OpensText (fileFormat resource) policy resource t text := by
  intro filters
  obtain ⟨f, -, hholds, hready⟩ := ready?_fileFormat filters policy h
  exact ⟨rfl, f, hholds, hready⟩

end Ascii

namespace Reader

open Ascii

section Delivered

variable {ω S : Type} [Medium S] {F : Filters → Format ω (Ascii.Decoder S) String}
  {policy : RetryPolicy} {resource : Resource} {filters : Filters} {w : ω} {text : List Char}

theorem delivers_dumpRecords (hfinite : resource.isLive = false)
    (haccepts : filters.acceptsResource resource = true)
    (hopens : OpensText F policy resource w text) (interval : Option TimeInterval) :
    (start resource policy w).Delivers (F (filters.during interval))
      ((dumpRecords (findings interval (lines false text))).map fun b => ⟨resource.origin, b⟩) := by
  intro n
  have hresource : (filters.during interval).acceptsResource resource = true := haccepts
  obtain ⟨hdecoder, medium, hholds, hready⟩ := hopens (filters.during interval)
  rw [pulls_of_holds hdecoder hfinite hresource hready hholds, List.map_map]
  rfl

/-- A dump of text that the filters take delivers records during every interval, and the records
during an interval are those without it that lie inside. -/
theorem delivers_during (hfinite : resource.isLive = false)
    (haccepts : filters.acceptsResource resource = true)
    (hopens : OpensText F policy resource w text) :
    ∃ delivered : Option TimeInterval → List (Body String),
      (∀ interval, (start resource policy w).Delivers (F (filters.during interval))
        ((delivered interval).map fun b => ⟨resource.origin, b⟩)) ∧
      Narrowing filters delivered :=
  ⟨fun interval => dumpRecords (findings interval (lines false text)),
    delivers_dumpRecords hfinite haccepts hopens, narrowing_dumpRecords _ filters⟩

end Delivered

/-- A file of two records and a line that is no record in between. An interval that begins behind
the first record leaves the placeholder. -/
theorem delivers_during_three_lines :
    let resource : Resource :=
      { url := "dump", project := "p", collector := "c", recordType := .ribs, initialTime := 0 }
    let bytes := (Text.Utf8.encode "10|a\n?\n20|b".toList).toArray
    let t := (FileTree.empty 0).add 0 "dump" (.file bytes 0)
    let last : Body String := { position := .last, sec := 20, payload := some "b" }
    ∃ delivered : Option TimeInterval → List (Body String),
      (∀ interval, (start resource {} t).Delivers (fileFormat resource (Filters.during {} interval))
        ((delivered interval).map fun b => ⟨resource.origin, b⟩)) ∧
      Narrowing {} delivered ∧
      delivered none = [{ sec := 10, payload := some "a" },
        { status := .corruptedRecord, position := .middle, sec := 10 }, last] ∧
      delivered (some ⟨15, none⟩) = [{ status := .corruptedRecord }, last] := by
  intro resource bytes t last
  have haccepts : ({} : Filters).acceptsResource resource = true := rfl
  have hpath : t.resolveString (pathOf "dump") = .ok 1 := rfl
  have hopens : OpensText (fileFormat resource) {} resource t "10|a\n?\n20|b".toList :=
    opensText_file ⟨1, bytes, 0, hpath, rfl, rfl⟩ {}
  obtain ⟨delivered, hdelivers, hnarrowing⟩ := delivers_during rfl haccepts hopens
  have hrecords (interval : Option TimeInterval) :
      delivered interval = dumpRecords (findings interval (lines false "10|a\n?\n20|b".toList)) :=
    (List.map_inj_right fun _ _ h => congrArg Record.body h).mp
      ((hdelivers interval).unique (delivers_dumpRecords rfl haccepts hopens interval))
  exact ⟨delivered, hdelivers, hnarrowing, hrecords none, hrecords (some ⟨15, none⟩)⟩

end Reader
end RoutingDump
