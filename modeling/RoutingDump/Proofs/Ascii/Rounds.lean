import Mathlib.Data.List.Induction
import RoutingDump.Proofs.Ascii.Taken
import RoutingDump.Proofs.Medium.Consumed
import RoutingDump.Proofs.Text.Exact

/-!
# The rounds of a call

A call of the decoder goes on as long as its lines come to nothing. Every round that does not answer
uses something up: items of the medium, or the line that was begun. So a call comes to its answer
after a bounded number of rounds, whatever the medium holds. It takes items up to the one that
decides the answer, and none behind it.
-/

namespace RoutingDump
namespace Ascii

open Medium (Consumes lineFeed)
open Text (Utf8.decode?)

variable {S : Type} [Medium S]

/-- A read found the end of the file: an item that says so, or nothing at all. -/
def AtEnd (d : Decoder S) (stop : Option Item) : Prop :=
  stop = some .endOfFile ∨ stop = none ∧ Medium.ending d.medium = none

/-- A read came to a line: at its line feed, or at the end of a file that does not grow. -/
def AtLine (d : Decoder S) (stop : Option Item) : Prop :=
  stop = some (.byte lineFeed) ∨ d.task.live = false ∧ AtEnd d stop

/-- A read failed: at a fault, or because its bytes are no text. -/
def AtFailure (d : Decoder S) (passed : List Item) (stop : Option Item) : Prop :=
  (∃ e, stop = some (.fault e)) ∨ (∃ e, stop = none ∧ Medium.ending d.medium = some e) ∨
    Utf8.decode? (Item.bytes (passed ++ stop.toList)) = none

/-- What one read comes to, by the items it takes. -/
inductive Stopped (d : Decoder S) (passed : List Item) (stop : Option Item) : Reading S → Prop
  | line {next : Decoder S} (hstop : AtLine d stop)
    (hused : passed ++ stop.toList ≠ [] ∨ d.line ≠ []) : Stopped d passed stop (.line next)
  | ended {next : Decoder S} (hstop : AtEnd d stop) : Stopped d passed stop (.ended next)
  | failed {next : Decoder S} {e : IoError} (hstop : AtFailure d passed stop) :
    Stopped d passed stop (.failed next e)

namespace Decoder

theorem read_of_fault {d : Decoder S} {e : IoError}
    (hfault : (Medium.readLine d.medium).fault = some e) : ∃ next, d.read = .failed next e := by
  unfold read
  dsimp only
  rw [hfault]
  cases Utf8.decode? (Medium.readLine d.medium).bytes with
  | none => exact ⟨_, rfl⟩
  | some text => exact ⟨_, rfl⟩

theorem read_of_bytes {d : Decoder S} (hfault : (Medium.readLine d.medium).fault = none)
    (hbytes : Utf8.decode? (Medium.readLine d.medium).bytes = none) :
    ∃ next, d.read = .failed next .notText := by
  unfold read
  dsimp only
  rw [hfault, hbytes]
  exact ⟨_, rfl⟩

omit [Medium S] in
theorem pauses_lineFeed (d : Decoder S) (text : List Char) : d.pauses (text ++ ['\n']) = false := by
  simp [pauses, keep]

omit [Medium S] in
theorem pauses_of_live {d : Decoder S} {text : List Char} (hlive : d.task.live = true)
    (hopen : '\n' ∉ text) : d.pauses text = true := by
  cases text using List.reverseRecOn with
  | nil => simp [pauses, hlive]
  | append_singleton front c =>
    have hc : c ≠ '\n' := by
      intro heq
      apply hopen
      rw [heq]
      exact List.mem_append_right front (List.mem_singleton_self _)
    simp [pauses, keep, hlive, hc]

variable {d : Decoder S} {passed : List Item} {stop : Option Item}

theorem stopped_of_fault {e : IoError}
    (hfault : (Medium.readLine d.medium).fault = some e)
    (hstop : (Medium.readLine d.medium).fault = Medium.faultAt (Medium.ending d.medium) stop) :
    Stopped d passed stop d.read := by
  obtain ⟨next, hread⟩ := read_of_fault hfault
  rw [hread]
  apply Stopped.failed
  rw [hfault] at hstop
  cases stop with
  | none => exact .inr (.inl ⟨e, rfl, hstop.symm⟩)
  | some i =>
    cases i with
    | fault e' => exact .inl ⟨e', rfl⟩
    | byte b => cases hstop
    | endOfFile => cases hstop

/-- A read that ends with a line feed has come to a line. -/
theorem stopped_of_lineFeed {text : List Char} {bytes : List UInt8}
    (hfault : (Medium.readLine d.medium).fault = none)
    (hbytes : (Medium.readLine d.medium).bytes = bytes ++ [lineFeed])
    (htext : Utf8.decode? (Medium.readLine d.medium).bytes = some text) :
    Stopped d passed (some (.byte lineFeed)) d.read := by
  have hencode := Text.Utf8.decode?_eq_some_iff.mp htext
  rw [hbytes, Text.Utf8.decode?_lineFeed] at htext
  obtain ⟨front, -, rfl⟩ := Option.map_eq_some_iff.mp htext
  have hused : passed ++ [Item.byte lineFeed] ≠ [] := List.concat_ne_nil _ _
  rw [read_of_text hencode, hfault, pauses_lineFeed]
  exact .line (.inl rfl) (.inl hused)

/-- A read without a line feed has come to the end of the file, and to a line only if something of
one is there and no more can follow. -/
theorem stopped_of_atEnd {text : List Char} (hend : AtEnd d stop)
    (hfault : (Medium.readLine d.medium).fault = none)
    (hbytes : (Medium.readLine d.medium).bytes = Item.bytes (passed ++ stop.toList))
    (hopen : lineFeed ∉ (Medium.readLine d.medium).bytes)
    (htext : Utf8.decode? (Medium.readLine d.medium).bytes = some text) :
    Stopped d passed stop d.read := by
  have hencode := Text.Utf8.decode?_eq_some_iff.mp htext
  rw [read_of_text hencode, hfault]
  dsimp only
  by_cases hpauses : d.pauses text = true
  · rw [if_pos hpauses]
    exact .ended hend
  · rw [if_neg hpauses]
    have hfeed : '\n' ∉ text := by
      intro hmem
      apply hopen
      rw [hencode]
      exact List.mem_flatMap.mpr ⟨'\n', hmem, List.mem_singleton_self _⟩
    have hfinite : d.task.live = false := by
      by_contra hlive
      apply hpauses
      apply pauses_of_live _ hfeed
      simpa using hlive
    refine .line (.inr ⟨hfinite, hend⟩) ?_
    by_cases hnothing : passed ++ stop.toList = []
    · right
      intro hline
      apply hpauses
      rw [hnothing] at hbytes
      rw [hbytes] at htext
      have hnone : text = [] := (Option.some.inj htext).symm
      have hkept : d.kept = [] := List.reverse_eq_nil_iff.mp hline
      simp [pauses, hnone, hkept]
    · exact .inl hnothing

theorem stopped_round (d : Decoder S) (body : Body String) :
    ∃ passed stop, Consumes d.medium passed stop (d.round body).decoder.medium ∧
      Stopped d passed stop d.read := by
  obtain ⟨passed, stop, hconsumes, hbytes, hstop⟩ := Medium.consumes_readLine d.medium
  rw [← (d.decoder_round body).2] at hconsumes
  refine ⟨passed, stop, hconsumes, ?_⟩
  cases hfault : (Medium.readLine d.medium).fault with
  | some e => exact stopped_of_fault hfault hstop
  | none =>
    cases htext : Utf8.decode? (Medium.readLine d.medium).bytes with
    | none =>
      obtain ⟨next, hread⟩ := read_of_bytes hfault htext
      rw [hread]
      rw [hbytes] at htext
      exact .failed (.inr (.inr htext))
    | some text =>
      rw [hfault] at hstop
      have hpassed := hconsumes.lineFeed_not_mem
      cases stop with
      | none =>
        refine stopped_of_atEnd (.inr ⟨rfl, hstop.symm⟩) hfault hbytes ?_ htext
        rw [hbytes]
        simpa using hpassed
      | some i =>
        cases i with
        | endOfFile =>
          refine stopped_of_atEnd (.inl rfl) hfault hbytes ?_ htext
          rw [hbytes, Item.bytes_append]
          simpa [Item.bytes, Item.byte?] using hpassed
        | fault e => cases hstop
        | byte b =>
          have hb : b = lineFeed := beq_iff_eq.mp (hconsumes.stops _ rfl)
          subst hb
          have hline : (Medium.readLine d.medium).bytes = Item.bytes passed ++ [lineFeed] := by
            rw [hbytes, Item.bytes_append]
            rfl
          exact stopped_of_lineFeed hfault hline htext

omit [Medium S] in
/-- A line that comes to an answer is a record or stands for one. -/
theorem answer_of_finishLine {next : Decoder S} {body : Body String}
    {a : Decoded (Decoder S) String} (h : next.finishLine body = .answer a) :
    a.outcome = .ok ∨ a.outcome = .corruptedMessage := by
  unfold finishLine at h
  dsimp only at h
  split at h
  · cases h
  · split at h
    · cases h
    · rename_i outcome body' htake
      cases h
      unfold Tally.take at htake
      split at htake
      · cases htake
        exact .inr rfl
      · split at htake
        · cases htake
          exact .inl rfl
        · cases htake

end Decoder

/-- What decides an answer: the item at which the last read stopped. -/
inductive Decided (d : Decoder S) (passed : List Item) (stop : Option Item) : Outcome → Prop
  | line {o : Outcome} (ho : o = .ok ∨ o = .corruptedMessage) (hstop : AtLine d stop) :
    Decided d passed stop o
  | ended {o : Outcome} (ho : o.endsDump = true) (hstop : AtEnd d stop) : Decided d passed stop o
  | failed (hstop : AtFailure d passed stop) : Decided d passed stop .readError

/-- A call that comes to the answer `a`, with the items that its rounds take one after the other. A
round without an answer takes something, or it ends a line that was begun before. -/
inductive Returns (body : Body String) :
    Decoder S → List (List Item) → Decoded (Decoder S) String → Prop
  | answer {d : Decoder S} {a : Decoded (Decoder S) String} {passed : List Item}
    {stop : Option Item} (hround : d.round body = .answer a)
    (hread : Consumes d.medium passed stop a.state.medium)
    (hdecided : Decided d passed stop a.outcome) : Returns body d [passed ++ stop.toList] a
  | again {d next : Decoder S} {a : Decoded (Decoder S) String} {passed : List Item}
    {stop : Option Item} {reads : List (List Item)} (hround : d.round body = .again next)
    (hread : Consumes d.medium passed stop next.medium) (hline : next.line = [])
    (hused : passed ++ stop.toList ≠ [] ∨ d.line ≠ []) (hrest : Returns body next reads a) :
    Returns body d ((passed ++ stop.toList) :: reads) a

namespace Returns

variable {d : Decoder S} {body : Body String} {a : Decoded (Decoder S) String}

theorem of_answer (hround : d.round body = .answer a) : ∃ taken, Returns body d [taken] a := by
  obtain ⟨passed, stop, hread, hstopped⟩ := d.stopped_round body
  rw [hround] at hread
  have hfinish := hround
  rw [Decoder.round_eq_finish] at hfinish
  refine ⟨passed ++ stop.toList, .answer hround hread ?_⟩
  generalize d.read = reading at hfinish hstopped
  cases hstopped with
  | line hstop hused => exact .line (Decoder.answer_of_finishLine hfinish) hstop
  | ended hstop =>
    cases hfinish
    exact .ended (Tally.endsDump_atEnd _ _) hstop
  | failed hstop =>
    cases hfinish
    exact .failed hstop

theorem of_again {next : Decoder S} {reads : List (List Item)}
    (hround : d.round body = .again next) (hrest : Returns body next reads a) :
    ∃ taken, Returns body d (taken :: reads) a := by
  obtain ⟨passed, stop, hread, hstopped⟩ := d.stopped_round body
  rw [hround] at hread
  have hfinish := hround
  rw [Decoder.round_eq_finish] at hfinish
  refine ⟨passed ++ stop.toList, ?_⟩
  generalize d.read = reading at hfinish hstopped
  -- Only a line can come to nothing.
  cases hstopped with
  | line hstop hused =>
    have hkept := (Decoder.medium_finishLine hfinish).2
    have hline : next.line = [] := by
      rw [Decoder.line, hkept]
      rfl
    exact .again hround hread hline hused hrest
  | ended hstop => cases hfinish
  | failed hstop => cases hfinish

/-- All that a call takes stands in front of what it leaves. -/
theorem pending_eq {reads : List (List Item)} (h : Returns body d reads a) :
    Medium.pending d.medium = reads.flatten ++ Medium.pending a.state.medium := by
  induction h with
  | answer hround hread hdecided =>
    rw [hread.pending_eq, List.flatten_singleton]
  | again hround hread hline hused hrest ih =>
    rw [hread.pending_eq, ih, List.flatten_cons]
    simp only [List.append_assoc]

end Returns

namespace Decoder

theorem returns_answer (d : Decoder S) (body : Body String) :
    ∃ reads, Returns body d reads (d.answer body) ∧ reads.length ≤ d.fuel + 1 := by
  -- The induction is on the rounds: each one without an answer leaves less fuel.
  fun_induction answer d body with
  | case1 d a hround =>
    obtain ⟨taken, hreturns⟩ := Returns.of_answer hround
    refine ⟨[taken], hreturns, ?_⟩
    simp
  | case2 d next hround hfuel ih =>
    obtain ⟨reads, hrest, hlength⟩ := ih
    obtain ⟨taken, hreturns⟩ := Returns.of_again hround hrest
    refine ⟨taken :: reads, hreturns, ?_⟩
    simp only [List.length_cons]
    omega

/-- Rounds without an answer do not go on for ever. -/
theorem not_endless (body : Body String) (ds : Nat → Decoder S) :
    ¬ ∀ i, (ds i).round body = .again (ds (i + 1)) := by
  intro h
  have hfuel (i : Nat) : (ds i).fuel + i ≤ (ds 0).fuel := by
    induction i with
    | zero => exact Nat.le_refl _
    | succ i ih =>
      have hless := fuel_round (h i)
      omega
  have hlast := hfuel ((ds 0).fuel + 1)
  omega

/-- Every call returns. Its rounds are at most as many as there are items, and one for a line that
was begun, and one for the answer. -/
theorem decode_returns (d : Decoder S) (body : Body String) :
    (∀ ds : Nat → Decoder S, ¬ ∀ i, (ds i).round body = .again (ds (i + 1))) ∧
      if d.task.accepted = true then
        ∃ reads, Returns body d reads (d.decode body) ∧
          reads.length ≤ (Medium.pending d.medium).length + (if d.line = [] then 0 else 1) + 1 ∧
          Medium.pending d.medium =
            reads.flatten ++ Medium.pending (d.decode body).state.medium
      else (d.decode body).state = d := by
  refine ⟨not_endless body, ?_⟩
  by_cases haccepted : d.task.accepted = true
  · rw [if_pos haccepted, Decoder.decode, if_pos haccepted]
    obtain ⟨reads, hreturns, hlength⟩ := d.returns_answer body
    refine ⟨reads, hreturns, ?_, hreturns.pending_eq⟩
    have hfuel : d.fuel =
        (Medium.pending d.medium).length + if d.line = [] then 0 else 1 := by
      simp [fuel, line]
    omega
  · rw [if_neg haccepted, Decoder.decode, if_neg haccepted]

end Decoder
end Ascii
end RoutingDump
