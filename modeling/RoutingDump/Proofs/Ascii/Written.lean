import RoutingDump.Proofs.Ascii.FiniteDump
import RoutingDump.Proofs.Text.Exact
import RoutingDump.Proofs.Text.Numeral

/-!
# Lines as they are written

A line that was written reads as itself, as long as its body ends in no blank and holds no line
feed. Every record that a line of a dump comes to has such a body, so the records of any dump can
be written again.
-/

namespace RoutingDump

namespace Text

theorem isBlank_of_isDigit {c : Char} (h : c.isDigit = true) : isBlank c = false := by
  have hcode := isDigit_iff.mp h
  simp only [isBlank, Bool.or_eq_false_iff, Bool.and_eq_false_iff, decide_eq_false_iff_not,
    beq_eq_false_iff_ne]
  omega

theorem trim_eq_self {cs : List Char} (hfront : ∀ c, cs.head? = some c → isBlank c = false)
    (hback : ∀ c, cs.getLast? = some c → isBlank c = false) : trim cs = cs := by
  have hstart : trimStart cs = cs := by
    cases cs with
    | nil => rfl
    | cons c cs => exact List.dropWhile_cons_of_neg (by rw [hfront c rfl]; nofun)
  have hend : trimEnd cs = cs := by
    rw [trimEnd]
    cases hcs : cs.reverse with
    | nil => rw [List.reverse_eq_nil_iff.mp hcs]; rfl
    | cons c rest =>
      have hlast : cs.getLast? = some c := by rw [← List.head?_reverse, hcs]; rfl
      rw [List.dropWhile_cons_of_neg (by rw [hback c hlast]; nofun), ← hcs, List.reverse_reverse]
  rw [trim, hstart, hend]

theorem mem_of_mem_trim {c : Char} {cs : List Char} (h : c ∈ trim cs) : c ∈ cs := by
  have hend : c ∈ trimStart cs := by
    have hmem := (List.dropWhile_sublist isBlank).mem (List.mem_reverse.mp h)
    exact List.mem_reverse.mp hmem
  exact (List.dropWhile_sublist isBlank).mem hend

theorem isBlank_getLast?_trim {c : Char} {cs : List Char} (h : (trim cs).getLast? = some c) :
    isBlank c = false := by
  rw [trim, trimEnd, List.getLast?_reverse] at h
  have hnot := List.head?_dropWhile_not isBlank (trimStart cs).reverse
  rw [h] at hnot
  exact hnot

end Text

namespace Ascii

theorem splitFirst_append {mark : Char} {front : List Char} (h : mark ∉ front)
    (back : List Char) : splitFirst mark (front ++ mark :: back) = some (front, back) := by
  induction front with
  | nil => rw [List.nil_append, splitFirst, if_pos rfl]
  | cons c front ih =>
    have hc : c ≠ mark := fun heq => h (heq ▸ List.mem_cons_self)
    have hfront := ih fun hmem => h (List.mem_cons_of_mem c hmem)
    rw [List.cons_append, splitFirst, if_neg hc, hfront]

theorem eq_append_of_splitFirst {mark : Char} {cs front back : List Char}
    (h : splitFirst mark cs = some (front, back)) : cs = front ++ mark :: back := by
  induction cs generalizing front with
  | nil => cases h
  | cons c cs ih =>
    rw [splitFirst] at h
    by_cases hc : c = mark
    · rw [if_pos hc] at h
      cases h
      rw [hc]
      rfl
    · rw [if_neg hc] at h
      cases hcs : splitFirst mark cs with
      | none =>
        rw [hcs] at h
        cases h
      | some halves =>
        obtain ⟨front', back'⟩ := halves
        rw [hcs] at h
        cases h
        rw [ih hcs]
        rfl

theorem usec_lt_of_parseTime? {cs : List Char} {sec usec : UInt32}
    (h : parseTime? cs = some (sec, usec)) : usec.toNat < usecLimit := by
  unfold parseTime? at h
  split at h
  · split at h
    · cases h
    · cases h
      decide
  · split at h
    · split at h
      · rename_i hlt
        cases h
        exact hlt
      · cases h
    · cases h

theorem parseLine?_eq_some {cs : List Char} {l : Line} (h : parseLine? cs = some l) :
    l.usec.toNat < usecLimit ∧ ∃ time, cs = time ++ '|' :: l.body := by
  unfold parseLine? at h
  split at h
  · cases h
  · rename_i time body hsplit
    split at h
    · cases h
    · rename_i sec usec htime
      cases h
      exact ⟨usec_lt_of_parseTime? htime, time, eq_append_of_splitFirst hsplit⟩

namespace Line

/-- The line comes back if it is written and read. -/
structure Writable (l : Line) : Prop where
  usec_lt : l.usec.toNat < usecLimit
  oneLine : '\n' ∉ l.body
  trimmed : ∀ c, l.body.getLast? = some c → Text.isBlank c = false

/-- Whatever a line of a dump reads as can be written. -/
theorem writable_of_parseLine? {cs : List Char} {l : Line} (hcs : '\n' ∉ cs)
    (h : parseLine? (Text.trim cs) = some l) : l.Writable := by
  obtain ⟨husec, time, htext⟩ := parseLine?_eq_some h
  refine ⟨husec, fun hmem => hcs (Text.mem_of_mem_trim ?_), fun c hc => ?_⟩
  · rw [htext]
    exact List.mem_append_right _ (List.mem_cons_of_mem _ hmem)
  · have hlast : (Text.trim cs).getLast? = some c := by
      rw [htext, List.getLast?_append, List.getLast?_cons, hc]
      rfl
    exact Text.isBlank_getLast?_trim hlast

/-- What stands in front of the bar. -/
def time (l : Line) : List Char :=
  Text.decimal l.sec.toNat ++ '.' :: Text.padded 6 l.usec.toNat

theorem write_eq (l : Line) : l.write = l.time ++ '|' :: l.body := rfl

theorem mem_time {l : Line} {c : Char} (h : c ∈ l.time) : c.isDigit = true ∨ c = '.' := by
  rcases List.mem_append.mp h with hsec | husec
  · exact .inl (Text.isDigit_of_mem_decimal hsec)
  · rcases List.mem_cons.mp husec with hdot | husec
    · exact .inr hdot
    · exact .inl (Text.isDigit_of_mem_padded husec)

theorem parseTime?_time {l : Line} (h : l.usec.toNat < usecLimit) :
    parseTime? l.time = some (l.sec, l.usec) := by
  have hdot : '.' ∉ Text.decimal l.sec.toNat := by
    intro hmem
    cases Text.isDigit_of_mem_decimal hmem
  have hsec : l.sec.toNat ≤ Text.maxWord32 := Nat.le_of_lt_succ l.sec.toNat_lt
  have husec : l.usec.toNat ≤ Text.maxWord32 := Nat.le_of_lt_succ l.usec.toNat_lt
  rw [time, parseTime?, splitFirst_append hdot]
  dsimp only
  rw [Text.word32?_of_numeral (Text.numeral_decimal _) hsec,
    Text.word32?_of_numeral (Text.numeral_padded _ _) husec]
  dsimp only
  rw [UInt32.ofNat_toNat, UInt32.ofNat_toNat, if_pos h]

theorem parseLine?_write {l : Line} (h : l.usec.toNat < usecLimit) :
    parseLine? l.write = some l := by
  have hbar : '|' ∉ l.time := by
    intro hmem
    rcases mem_time hmem with hdigit | hdot
    · cases hdigit
    · cases hdot
  rw [write_eq, parseLine?, splitFirst_append hbar]
  dsimp only
  rw [parseTime?_time h]

namespace Writable

variable {l : Line}

theorem trim_write (h : l.Writable) : Text.trim l.write = l.write := by
  refine Text.trim_eq_self (fun c hc => ?_) (fun c hc => ?_)
  · rw [write, List.append_assoc, List.head?_append_of_ne_nil _ (Text.decimal_ne_nil _)] at hc
    exact Text.isBlank_of_isDigit (Text.isDigit_of_mem_decimal (List.mem_of_head? hc))
  · rw [write_eq, List.getLast?_append, List.getLast?_cons] at hc
    cases hbody : l.body.getLast? with
    | none =>
      rw [hbody] at hc
      cases hc
      rfl
    | some last =>
      rw [hbody] at hc
      cases hc
      exact h.trimmed _ hbody

theorem lineFeed_not_mem_write (h : l.Writable) : '\n' ∉ l.write := by
  intro hmem
  rw [write_eq] at hmem
  rcases List.mem_append.mp hmem with htime | hbody
  · rcases mem_time htime with hdigit | hdot
    · cases hdigit
    · cases hdot
  · rcases List.mem_cons.mp hbody with hbar | hbody
    · cases hbar
    · exact h.oneLine hbody

theorem finding (h : l.Writable) :
    Finding.of? none (l.write ++ ['\n']) = some (.record l) := by
  have hsome : l.write.isEmpty = false := by rw [write_eq]; simp
  rw [Finding.of?, Text.trim_lineFeed, h.trim_write, hsome, Finding.of,
    parseLine?_write h.usec_lt]
  rfl

end Writable

/-- The record that the line comes to at the given position. -/
def bodyAt (l : Line) (position : Position) : Body String where
  status := .valid
  position := position
  sec := l.sec
  usec := l.usec
  payload := some (String.ofList l.body)

end Line

/-- The text of a dump of the given lines. -/
def dumpText (ls : List Line) : List Char := ls.flatMap fun l => l.write ++ ['\n']

theorem findings_dumpText {ls : List Line} (h : ∀ l ∈ ls, l.Writable) :
    findings none (lines false (dumpText ls)) = ls.map .record := by
  induction ls with
  | nil => rfl
  | cons l ls ih =>
    obtain ⟨hl, hls⟩ := List.forall_mem_cons.mp h
    have htext : dumpText (l :: ls) = l.write ++ '\n' :: dumpText ls := by
      rw [dumpText, List.flatMap_cons, List.append_assoc]
      rfl
    rw [htext, lines_line hl.lineFeed_not_mem_write, findings_cons, hl.finding, ih hls]
    rfl

/-- The records of a dump of the given lines. -/
def writtenRecords (ls : List Line) : List (Body String) :=
  ls.mapIdx fun i l =>
    l.bodyAt (if i + 1 = ls.length then .last else if i = 0 then .first else .middle)

theorem reportsFrom_records (position : Position) (time : UInt32 × UInt32) (ls : List Line) :
    reportsFrom position time (ls.map .record) =
      ls.mapIdx fun i l => l.bodyAt (if i = 0 then position else .middle) := by
  induction ls generalizing position time with
  | nil => rfl
  | cons l ls ih =>
    have hlater (i : Nat) : (if i = 0 then Position.middle else .middle) = .middle := ite_self _
    rw [List.map_cons, reportsFrom, ih, List.mapIdx_cons]
    simp only [hlater]
    rfl

theorem dumpRecords_written {ls : List Line} (hsome : ls ≠ []) :
    dumpRecords (ls.map .record) = writtenRecords ls := by
  have hreports : reports (ls.map .record) =
      ls.mapIdx fun i l => l.bodyAt (if i = 0 then .first else .middle) :=
    reportsFrom_records .first (0, 0) ls
  have hlength : (reports (ls.map .record)).length = ls.length := by
    rw [hreports, List.length_mapIdx]
  have hsome' : reports (ls.map .record) ≠ [] := by
    intro hnil
    rw [hnil] at hlength
    exact hsome (List.length_eq_zero_iff.mp hlength.symm)
  have hlast : (ls.map Finding.record).getLast? ≠ some .outside := by
    intro houtside
    obtain ⟨l, -, hl⟩ := List.mem_map.mp (List.mem_of_getLast? houtside)
    cases hl
  refine List.ext_getElem? fun i => ?_
  rw [getElem?_dumpRecords hsome', hlength, hreports, writtenRecords, List.getElem?_mapIdx,
    List.getElem?_mapIdx, Option.map_map]
  refine congrArg (Option.map · ls[i]?) (funext fun l => ?_)
  by_cases hi : i + 1 = ls.length
  · rw [Function.comp, if_pos ⟨hi, hlast⟩, if_pos hi]
    rfl
  · rw [Function.comp, if_neg (fun h => hi h.1), if_neg hi]

end Ascii
end RoutingDump
