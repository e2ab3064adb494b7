import RoutingDump.Proofs.Medium.Faults

/-!
# What a read takes off a medium

A read of a line goes past bytes and interruptions up to the first item that stops it: a line feed,
an end of the file or a fault. It takes this item too, and nothing behind it. Only where the medium
is used up there is no such item.
-/

namespace RoutingDump

/-- Whether a read of a line stops at an item. -/
def Item.stops : Item → Bool
  | .byte b => b == Medium.lineFeed
  | .endOfFile => true
  | .fault e => !e.isInterruption

namespace Medium

variable {S : Type} [Medium S]

/-- A read that leaves `rest` has gone past the items `passed` and stopped at `stop`. -/
structure Consumes (s : S) (passed : List Item) (stop : Option Item) (rest : S) : Prop where
  pending_eq : pending s = passed ++ stop.toList ++ pending rest
  ending_eq : ending rest = ending s
  passes : ∀ i ∈ passed, i.stops = false
  stops : ∀ i ∈ stop, i.stops = true
  used_up : stop = none → pending rest = []

/-- What a read reports that stopped at an item, or found none to stop at. -/
def faultAt (ending : Option IoError) : Option Item → Option IoError
  | some (.fault e) => some e
  | some (.byte _) | some .endOfFile => none
  | none => ending

namespace Consumes

variable {s rest : S} {passed : List Item} {stop : Option Item} {i : Item}

theorem nothing (h : pending s = []) : Consumes s [] none s := by
  constructor
  case pending_eq => rw [h]; rfl
  case ending_eq => rfl
  case passes => nofun
  case stops => nofun
  case used_up => intro _; exact h

theorem stop_at (hnext : next s = .item i rest) (hstops : i.stops = true) :
    Consumes s [] (some i) rest := by
  constructor
  case pending_eq => exact pending_of_next hnext
  case ending_eq => exact ending_of_next hnext
  case passes => nofun
  case stops =>
    intro j hj
    cases hj
    exact hstops
  case used_up => nofun

theorem pass {later : S} (hnext : next s = .item i later) (hpasses : i.stops = false)
    (h : Consumes later passed stop rest) : Consumes s (i :: passed) stop rest := by
  constructor
  case pending_eq =>
    rw [pending_of_next hnext, h.pending_eq]
    rfl
  case ending_eq => exact h.ending_eq.trans (ending_of_next hnext)
  case passes => exact List.forall_mem_cons.mpr ⟨hpasses, h.passes⟩
  case stops => exact h.stops
  case used_up => exact h.used_up

theorem lineFeed_not_mem (h : Consumes s passed stop rest) : lineFeed ∉ Item.bytes passed := by
  intro hmem
  obtain ⟨i, hi, hbyte⟩ := List.mem_filterMap.mp hmem
  cases i with
  | byte b =>
    cases hbyte
    have hstops := h.passes _ hi
    cases hstops
  | endOfFile => cases hbyte
  | fault e => cases hbyte

end Consumes

/-- The bytes of a read are those among the items it takes. -/
theorem consumes_readOn (taken : List UInt8) (s : S) :
    ∃ passed stop, Consumes s passed stop (readOn taken s).rest ∧
      (readOn taken s).bytes = taken.reverse ++ Item.bytes (passed ++ stop.toList) ∧
      (readOn taken s).fault = faultAt (ending s) stop := by
  fun_induction readOn taken s with
  | case1 taken s fault hnext =>
    have hnone := pending_of_ended hnext
    refine ⟨[], none, .nothing hnone, (List.append_nil _).symm, ?_⟩
    rw [next_of_nil s hnone] at hnext
    cases hnext
    rfl
  | case2 taken s rest hnext =>
    exact ⟨[], some _, .stop_at hnext rfl, List.reverse_cons, rfl⟩
  | case3 taken s b rest hnext hb hlt ih =>
    obtain ⟨passed, stop, hconsumes, hbytes, hfault⟩ := ih
    have hpasses : (Item.byte b).stops = false := beq_eq_false_iff_ne.mpr hb
    refine ⟨.byte b :: passed, stop, hconsumes.pass hnext hpasses, ?_, ?_⟩
    · rw [hbytes, List.reverse_cons, List.append_assoc]
      rfl
    · rw [hfault, ending_of_next hnext]
  | case4 taken s rest hnext =>
    exact ⟨[], some _, .stop_at hnext rfl, (List.append_nil _).symm, rfl⟩
  | case5 taken s e rest hnext he hlt ih =>
    obtain ⟨passed, stop, hconsumes, hbytes, hfault⟩ := ih
    have hpasses : (Item.fault e).stops = false := by simp [Item.stops, he]
    refine ⟨.fault e :: passed, stop, hconsumes.pass hnext hpasses, hbytes, ?_⟩
    rw [hfault, ending_of_next hnext]
  | case6 taken s e rest hnext he =>
    have hstops : (Item.fault e).stops = true := by simp [Item.stops, he]
    exact ⟨[], some _, .stop_at hnext hstops, (List.append_nil _).symm, rfl⟩

theorem consumes_readLine (s : S) :
    ∃ passed stop, Consumes s passed stop (readLine s).rest ∧
      (readLine s).bytes = Item.bytes (passed ++ stop.toList) ∧
      (readLine s).fault = faultAt (ending s) stop :=
  consumes_readOn [] s

end Medium
end RoutingDump
