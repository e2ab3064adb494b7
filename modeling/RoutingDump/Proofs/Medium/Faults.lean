import RoutingDump.Proofs.Medium.Interruption

/-!
# Reading text with faults in it

A fault stops the read that meets it, and the next read goes on behind it. As long as no fault and
no end of the file stands inside a character, all that a read takes is text, and a read that fails
has taken the front of what the same read takes from the medium without faults.
-/

namespace RoutingDump

open Text (Utf8.encode Utf8.encodeChar)

namespace Item

def isFault : Item → Bool
  | .fault _ => true
  | .byte _ | .endOfFile => false

/-- The fault of a read that fails. An interruption does not make a read fail. -/
def failure? : Item → Option IoError
  | .fault e => if e.isInterruption then none else some e
  | .byte _ | .endOfFile => none

def withoutFaults (is : List Item) : List Item := is.filter (!·.isFault)

def failures (is : List Item) : List IoError := is.filterMap failure?

/-- Whole characters, and faults and ends of the file between them. -/
inductive Textual : List Item → Prop
  | nil : Textual []
  | char (c : Char) {is : List Item} (h : Textual is) :
    Textual (ofBytes (Utf8.encodeChar c) ++ is)
  | endOfFile {is : List Item} (h : Textual is) : Textual (.endOfFile :: is)
  | fault (e : IoError) {is : List Item} (h : Textual is) : Textual (.fault e :: is)

theorem textual_ofBytes (cs : List Char) {is : List Item} (h : Textual is) :
    Textual (ofBytes (Utf8.encode cs) ++ is) := by
  induction cs with
  | nil => exact h
  | cons c cs ih =>
    rw [Text.Utf8.encode_cons, ofBytes, List.map_append, List.append_assoc]
    exact .char c ih

theorem withoutFaults_append (is js : List Item) :
    withoutFaults (is ++ js) = withoutFaults is ++ withoutFaults js := List.filter_append _ _

theorem withoutFaults_ofBytes (bs : List UInt8) : withoutFaults (ofBytes bs) = ofBytes bs := by
  refine List.filter_eq_self.mpr fun i hi => ?_
  obtain ⟨b, -, rfl⟩ := List.mem_map.mp hi
  rfl

theorem fault_not_mem_withoutFaults (is : List Item) (e : IoError) :
    .fault e ∉ withoutFaults is := by
  intro hmem
  cases (List.mem_filter.mp hmem).2

theorem bytes_withoutFaults (is : List Item) : bytes (withoutFaults is) = bytes is := by
  rw [bytes, withoutFaults, List.filterMap_filter]
  refine congrArg (List.filterMap · is) (funext fun i => ?_)
  cases i <;> rfl

theorem withoutFaults_eq_ofBytes {is : List Item} (h : .endOfFile ∉ is) :
    withoutFaults is = ofBytes (bytes is) := by
  induction is with
  | nil => rfl
  | cons i is ih =>
    have hlater := ih fun hmem => h (List.mem_cons_of_mem i hmem)
    cases i with
    | byte b => exact congrArg (Item.byte b :: ·) hlater
    | endOfFile => exact absurd List.mem_cons_self h
    | fault e => exact hlater

theorem failures_cons (i : Item) (is : List Item) :
    failures (i :: is) = i.failure?.toList ++ failures is := by
  rw [failures, List.filterMap_cons]
  cases i.failure? <;> rfl

theorem length_withoutFaults_le (is : List Item) :
    (withoutFaults is).length + (failures is).length ≤ is.length := by
  induction is with
  | nil => exact Nat.le_refl 0
  | cons i is ih =>
    have hone : (withoutFaults [i]).length + i.failure?.toList.length ≤ 1 := by
      cases i with
      | byte b => exact Nat.le_refl 1
      | endOfFile => exact Nat.le_refl 1
      | fault e =>
        show 0 + (failure? (.fault e)).toList.length ≤ 1
        cases failure? (.fault e) with
        | none => exact Nat.zero_le 1
        | some e => exact Nat.le_refl 1
    have hsplit : withoutFaults (i :: is) = withoutFaults [i] ++ withoutFaults is :=
      withoutFaults_append [i] is
    rw [hsplit, failures_cons, List.length_append, List.length_append, List.length_cons]
    omega

namespace Textual

variable {is : List Item}

theorem bytes_eq (h : Textual is) : ∃ text, bytes is = Utf8.encode text := by
  induction h with
  | nil => exact ⟨[], rfl⟩
  | char c h ih =>
    obtain ⟨text, htext⟩ := ih
    exact ⟨c :: text, by rw [bytes_append, bytes_ofBytes, htext, Text.Utf8.encode_cons]⟩
  | endOfFile h ih => exact ih
  | fault e h ih => exact ih

theorem withoutFaults (h : Textual is) : Textual (withoutFaults is) := by
  induction h with
  | nil => exact .nil
  | char c h ih =>
    rw [withoutFaults_append, withoutFaults_ofBytes]
    exact .char c ih
  | endOfFile h ih => exact .endOfFile ih
  | fault e h ih => exact ih

theorem uncut_withoutFaults (h : Textual is) : Uncut (Item.withoutFaults is) := by
  induction h with
  | nil => exact uncut_ofBytes []
  | char c h ih =>
    have hchar : bytes (ofBytes (Utf8.encodeChar c)) = Utf8.encode [c] := by
      rw [bytes_ofBytes, Text.Utf8.encode_cons]
      exact (List.append_nil _).symm
    rw [withoutFaults_append, withoutFaults_ofBytes]
    exact (uncut_append hchar (endOfFile_not_mem_ofBytes _) _).mpr ih
  | endOfFile h ih => exact (uncut_endOfFile _).mpr ih
  | fault e h ih => exact ih

end Textual
end Item

namespace Medium

variable {S : Type} [Medium S]

theorem readOn_of_interruption {taken : List UInt8} {s rest : S} {e : IoError}
    (he : e.isInterruption = true) (h : next s = .item (.fault e) rest) :
    readOn taken s = readOn taken rest := by
  rw [readOn]
  split <;> rename_i hnext <;> rw [h] at hnext <;> cases hnext
  rw [if_pos he]

theorem readOn_of_failure {taken : List UInt8} {s rest : S} {e : IoError}
    (he : ¬ e.isInterruption = true) (h : next s = .item (.fault e) rest) :
    readOn taken s = { bytes := taken.reverse, fault := some e, rest := rest } := by
  rw [readOn]
  split <;> rename_i hnext <;> rw [h] at hnext <;> cases hnext
  rw [if_neg he]

/-- What a read has taken before stays in front. -/
theorem readOn_append (taken front : List UInt8) (s : S) :
    readOn (taken ++ front) s =
      { readOn taken s with bytes := front.reverse ++ (readOn taken s).bytes } := by
  fun_induction readOn taken s with
  | case1 taken s fault hnext => rw [readOn_of_ended hnext, List.reverse_append]
  | case2 taken s rest hnext =>
    rw [readOn_of_lineFeed hnext, List.reverse_append, List.reverse_cons, List.append_assoc]
  | case3 taken s b rest hnext hb hlt ih =>
    rw [readOn_of_byte hb hnext]
    exact ih
  | case4 taken s rest hnext => rw [readOn_of_endOfFile hnext, List.reverse_append]
  | case5 taken s e rest hnext he hlt ih =>
    rw [readOn_of_interruption he hnext]
    exact ih
  | case6 taken s e rest hnext he => rw [readOn_of_failure he hnext, List.reverse_append]

theorem readOn_eq (taken : List UInt8) (s : S) :
    readOn taken s = { readLine s with bytes := taken.reverse ++ (readLine s).bytes } :=
  readOn_append [] taken s

/-- A medium of whole characters that comes to its end without a fault. -/
structure Textual (s : S) : Prop where
  items : Item.Textual (pending s)
  ending_eq : ending s = none

/-- A read that takes the given text behind what was taken before. It fails inside a line only. -/
structure Takes (taken : List UInt8) (text : List Char) (line : Line S) : Prop where
  bytes_eq : line.bytes = taken.reverse ++ Utf8.encode text
  rest : Textual line.rest
  open_of_fault : line.fault ≠ none → '\n' ∉ text

theorem takes_nothing {taken : List UInt8} {rest : S} (fault : Option IoError)
    (h : Textual rest) :
    Takes taken [] { bytes := taken.reverse, fault := fault, rest := rest } :=
  ⟨(List.append_nil _).symm, h, fun _ => List.not_mem_nil⟩

theorem Textual.takes {s : S} (h : Textual s) (taken : List UInt8) :
    ∃ text, Takes taken text (readOn taken s) := by
  obtain ⟨htextual, hend⟩ := h
  generalize his : pending s = is at htextual
  -- The induction is on the items: characters join the line until one of them ends it.
  induction htextual generalizing s taken with
  | nil =>
    rw [readOn_of_ended (next_of_nil s his)]
    exact ⟨[], takes_nothing _ ⟨his ▸ .nil, hend⟩⟩
  | @char c is hrest ih =>
    by_cases hc : c = '\n'
    · subst hc
      obtain ⟨rest, hnext, hpending, hending⟩ := next_of_cons s _ _ his
      rw [readOn_of_lineFeed hnext]
      exact ⟨['\n'], rfl, ⟨hpending ▸ hrest, hending.trans hend⟩, fun hfault => absurd rfl hfault⟩
    · have hfeed := Text.Utf8.lineFeed_not_mem_encodeChar hc
      obtain ⟨s', hpending, hending, hread⟩ := readOn_ofBytes hfeed taken his
      obtain ⟨text, htakes⟩ := ih _ (hending.trans hend) hpending
      rw [hread]
      refine ⟨c :: text, ?_, htakes.rest, fun hfault => ?_⟩
      · rw [htakes.bytes_eq, Text.Utf8.encode_cons, List.reverse_append, List.reverse_reverse,
          List.append_assoc]
      · rw [List.mem_cons, not_or]
        exact ⟨Ne.symm hc, htakes.open_of_fault hfault⟩
  | endOfFile hrest ih =>
    obtain ⟨rest, hnext, hpending, hending⟩ := next_of_cons s _ _ his
    rw [readOn_of_endOfFile hnext]
    exact ⟨[], takes_nothing _ ⟨hpending ▸ hrest, hending.trans hend⟩⟩
  | fault e hrest ih =>
    obtain ⟨rest, hnext, hpending, hending⟩ := next_of_cons s _ _ his
    by_cases he : e.isInterruption = true
    · rw [readOn_of_interruption he hnext]
      exact ih taken (hending.trans hend) hpending
    · rw [readOn_of_failure he hnext]
      exact ⟨[], takes_nothing _ ⟨hpending ▸ hrest, hending.trans hend⟩⟩

/-- The items that are left, without the faults among them. -/
def calm (s : S) : List Item := Item.withoutFaults (pending s)

theorem textual_calm {s : S} (h : Textual s) : Textual (calm s) := ⟨h.items.withoutFaults, rfl⟩

theorem failures_of_next {s rest : S} {i : Item} (h : next s = .item i rest) :
    Item.failures (pending s) = i.failure?.toList ++ Item.failures (pending rest) := by
  rw [pending_of_next h, Item.failures_cons]

theorem next_calm {s rest : S} {i : Item} (hi : i.isFault = false) (h : next s = .item i rest) :
    next (calm s) = .item i (calm rest) := by
  rw [calm, pending_of_next h, Item.withoutFaults, List.filter_cons_of_pos (by rw [hi]; rfl)]
  rfl

theorem calm_of_fault {s rest : S} {e : IoError} (h : next s = .item (.fault e) rest) :
    calm s = calm rest := by
  rw [calm, pending_of_next h]
  rfl

theorem pending_of_ended {s : S} {fault : Option IoError} (h : next s = .ended fault) :
    pending s = [] := by
  cases hpending : pending s with
  | nil => rfl
  | cons i is =>
    obtain ⟨rest, hnext, -⟩ := next_of_cons s i is hpending
    rw [h] at hnext
    cases hnext

theorem ending_of_next {s rest : S} {i : Item} (h : next s = .item i rest) :
    ending rest = ending s := by
  obtain ⟨rest', hnext, -, hending⟩ := next_of_cons s i _ (pending_of_next h)
  rw [h] at hnext
  cases hnext
  exact hending

/-- A read that does not fail takes the same from the medium without faults. -/
theorem readOn_calm_of_none {taken : List UInt8} {s : S} (h : (readOn taken s).fault = none) :
    readOn taken (calm s) =
        { bytes := (readOn taken s).bytes, fault := none, rest := calm (readOn taken s).rest } ∧
      Item.failures (pending s) = Item.failures (pending (readOn taken s).rest) := by
  fun_induction readOn taken s with
  | case1 taken s fault hnext =>
    have hcalm : next (calm s) = .ended none := by
      rw [calm, pending_of_ended hnext]
      rfl
    rw [readOn_of_ended hcalm]
    exact ⟨rfl, rfl⟩
  | case2 taken s rest hnext =>
    rw [readOn_of_lineFeed (next_calm rfl hnext), List.reverse_cons, failures_of_next hnext]
    exact ⟨rfl, rfl⟩
  | case3 taken s b rest hnext hb hlt ih =>
    rw [readOn_of_byte hb (next_calm rfl hnext), failures_of_next hnext]
    exact ih h
  | case4 taken s rest hnext =>
    rw [readOn_of_endOfFile (next_calm rfl hnext), failures_of_next hnext]
    exact ⟨rfl, rfl⟩
  | case5 taken s e rest hnext he hlt ih =>
    rw [calm_of_fault hnext, failures_of_next hnext, Item.failure?, if_pos he]
    exact ih h
  | case6 taken s e rest hnext he => cases h

/-- A read that fails has taken the front of what the same read takes without faults. -/
theorem readOn_calm_of_some {taken : List UInt8} {s : S} {fault : IoError}
    (hend : ending s = none) (h : (readOn taken s).fault = some fault) :
    readOn taken (calm s) =
        readOn (readOn taken s).bytes.reverse (calm (readOn taken s).rest) ∧
      Item.failures (pending s) = fault :: Item.failures (pending (readOn taken s).rest) := by
  fun_induction readOn taken s with
  | case1 taken s ended hnext =>
    rw [next_of_nil s (pending_of_ended hnext), hend] at hnext
    cases hnext
    cases h
  | case2 taken s rest hnext => cases h
  | case3 taken s b rest hnext hb hlt ih =>
    rw [readOn_of_byte hb (next_calm rfl hnext), failures_of_next hnext]
    exact ih ((ending_of_next hnext).trans hend) h
  | case4 taken s rest hnext => cases h
  | case5 taken s e rest hnext he hlt ih =>
    rw [calm_of_fault hnext, failures_of_next hnext, Item.failure?, if_pos he]
    exact ih ((ending_of_next hnext).trans hend) h
  | case6 taken s e rest hnext he =>
    cases h
    rw [calm_of_fault hnext, failures_of_next hnext, Item.failure?, if_neg he,
      List.reverse_reverse]
    exact ⟨rfl, rfl⟩

theorem length_pending_readOn (taken : List UInt8) (s : S) :
    (pending (readOn taken s).rest).length ≤ (pending s).length - 1 := by
  fun_induction readOn taken s with
  | case1 taken s fault hnext =>
    rw [pending_of_ended hnext]
    exact Nat.zero_le _
  | case2 taken s rest hnext | case4 taken s rest hnext =>
    have hlt := length_of_next hnext
    dsimp only
    omega
  | case3 taken s b rest hnext hb hlt ih | case5 taken s e rest hnext hb hlt ih => omega
  | case6 taken s e rest hnext =>
    have hlt := length_of_next hnext
    dsimp only
    omega

end Medium
end RoutingDump
