import RoutingDump.Proofs.Medium.ReadLine
import RoutingDump.Proofs.Text.Cut

/-!
# Reading text with ends of the file in it

A medium without faults may report the end of the file anywhere between its bytes. A read stops
there, and what it has read so far is text if no character is cut in two.
-/

namespace RoutingDump

open Text (Utf8.encode Utf8.decode?)

namespace Item

def byte? : Item → Option UInt8
  | .byte b => some b
  | .endOfFile | .fault _ => none

/-- All bytes among some items. -/
def bytes (is : List Item) : List UInt8 := is.filterMap byte?

theorem bytes_append (is js : List Item) : bytes (is ++ js) = bytes is ++ bytes js :=
  List.filterMap_append

theorem bytes_ofBytes (bs : List UInt8) : bytes (ofBytes bs) = bs := by
  rw [bytes, ofBytes, List.filterMap_map]
  exact List.filterMap_some

theorem endOfFile_not_mem_ofBytes (bs : List UInt8) : .endOfFile ∉ ofBytes bs := by
  intro hmem
  obtain ⟨b, -, hb⟩ := List.mem_map.mp hmem
  cases hb

/-- Every end of the file is reported between two characters. -/
def Uncut (is : List Item) : Prop :=
  ∀ front back, is = front ++ .endOfFile :: back → ∃ cs, bytes front = Utf8.encode cs

theorem uncut_append {is : List Item} {cs : List Char} (hbytes : bytes is = Utf8.encode cs)
    (hend : .endOfFile ∉ is) (js : List Item) : Uncut (is ++ js) ↔ Uncut js := by
  constructor
  · rintro h front back rfl
    obtain ⟨ds, hds⟩ := h (is ++ front) back (List.append_assoc ..).symm
    rw [bytes_append, hbytes] at hds
    obtain ⟨es, -, hes⟩ := Text.Utf8.encode_of_append_encode hds
    exact ⟨es, hes⟩
  · intro h front back hsplit
    rcases List.append_eq_append_iff.mp hsplit with ⟨m, rfl, hm⟩ | ⟨m, rfl, hm⟩
    · obtain ⟨ds, hds⟩ := h m back hm
      refine ⟨cs ++ ds, ?_⟩
      rw [bytes_append, hbytes, hds, Text.Utf8.encode_append]
    · -- The end of the file cannot lie among the items in front.
      cases m with
      | nil =>
        rw [List.append_nil] at hbytes
        exact ⟨cs, hbytes⟩
      | cons i m =>
        cases hm
        exact absurd (List.mem_append_right _ List.mem_cons_self) hend

theorem uncut_endOfFile (is : List Item) : Uncut (.endOfFile :: is) ↔ Uncut is := by
  constructor
  · rintro h front back rfl
    exact h (.endOfFile :: front) back rfl
  · intro h front back hsplit
    cases front with
    | nil => exact ⟨[], rfl⟩
    | cons i front =>
      cases hsplit
      exact h front back rfl

theorem uncut_ofBytes (bs : List UInt8) : Uncut (ofBytes bs) := by
  intro front back hsplit
  refine absurd ?_ (endOfFile_not_mem_ofBytes bs)
  rw [hsplit]
  exact List.mem_append_right _ List.mem_cons_self

/-- Items without a fault begin with bytes up to the first line feed, end of the file or the last
item. -/
theorem exists_ofBytes {is : List Item} (h : ∀ e, .fault e ∉ is) :
    ∃ l tail, is = ofBytes l ++ tail ∧ Medium.lineFeed ∉ l ∧
      (tail = [] ∨ (∃ more, tail = .byte Medium.lineFeed :: more) ∨
        ∃ more, tail = .endOfFile :: more) := by
  induction is with
  | nil => exact ⟨[], [], rfl, List.not_mem_nil, .inl rfl⟩
  | cons i is ih =>
    cases i with
    | byte b =>
      by_cases hb : b = Medium.lineFeed
      · subst hb
        exact ⟨[], _, rfl, List.not_mem_nil, .inr (.inl ⟨is, rfl⟩)⟩
      · obtain ⟨l, tail, rfl, hl, htail⟩ := ih fun e hmem => h e (List.mem_cons_of_mem _ hmem)
        refine ⟨b :: l, tail, rfl, fun hmem => ?_, htail⟩
        rcases List.mem_cons.mp hmem with heq | hmem
        · exact hb heq.symm
        · exact hl hmem
    | endOfFile => exact ⟨[], _, rfl, List.not_mem_nil, .inr (.inr ⟨is, rfl⟩)⟩
    | fault e => exact absurd List.mem_cons_self (h e)

end Item

namespace Medium

variable {S : Type} [Medium S]

theorem readOn_of_endOfFile {taken : List UInt8} {s rest : S}
    (h : next s = .item .endOfFile rest) :
    readOn taken s = { bytes := taken.reverse, fault := none, rest := rest } := by
  rw [readOn]
  split <;> rename_i hnext <;> rw [h] at hnext <;> cases hnext
  rfl

theorem readLine_bytes_endOfFile {l : List UInt8} (hl : lineFeed ∉ l) {tail : List Item} {s : S}
    (h : pending s = Item.ofBytes l ++ .endOfFile :: tail) :
    ∃ rest, readLine s = { bytes := l, fault := none, rest := rest } ∧
      pending rest = tail ∧ ending rest = ending s := by
  obtain ⟨s', hpending', hending', hread⟩ := readOn_ofBytes hl [] h
  obtain ⟨rest, hnext, hpending, hending⟩ := next_of_cons s' _ _ hpending'
  refine ⟨rest, ?_, hpending, hending.trans hending'⟩
  rw [readLine, hread, readOn_of_endOfFile hnext, List.append_nil, List.reverse_reverse]

/-- A medium without faults whose bytes are the given text. -/
structure Carries (s : S) (text : List Char) : Prop where
  faultless : ∀ e, .fault e ∉ pending s
  ending_eq : ending s = none
  bytes_eq : Item.bytes (pending s) = Utf8.encode text

/-- What one read does to a medium that carries a text: it takes a line, or what stands in front of
an end of the file, or it stops inside a character. -/
inductive Reads (s : S) (text : List Char) : Prop
  | line {l r : List Char} {rest : S} (htext : text = l ++ '\n' :: r) (hl : '\n' ∉ l)
      (hread : readLine s = { bytes := Utf8.encode (l ++ ['\n']), fault := none, rest := rest })
      (hrest : Carries rest r) (hshorter : (pending rest).length < (pending s).length)
      (huncut : Item.Uncut (pending s) ↔ Item.Uncut (pending rest))
  | pause {l r : List Char} {rest : S} (htext : text = l ++ r) (hl : '\n' ∉ l)
      (hread : readLine s = { bytes := Utf8.encode l, fault := none, rest := rest })
      (hrest : Carries rest r) (hshorter : (pending rest).length ≤ (pending s).length - 1)
      (huncut : Item.Uncut (pending s) ↔ Item.Uncut (pending rest))
  | cut {bs : List UInt8} {rest : S}
      (hread : readLine s = { bytes := bs, fault := none, rest := rest })
      (hbytes : Utf8.decode? bs = none) (hcut : ¬ Item.Uncut (pending s))

theorem lineFeed_mem_encode {cs : List Char} (h : lineFeed ∈ Utf8.encode cs) : '\n' ∈ cs := by
  by_contra hnone
  exact Text.Utf8.lineFeed_not_mem_encode hnone h

theorem eq_of_lineFeed {l l' r r' : List UInt8} (hl : lineFeed ∉ l) (hl' : lineFeed ∉ l')
    (h : l ++ lineFeed :: r = l' ++ lineFeed :: r') : l = l' ∧ r = r' := by
  induction l generalizing l' with
  | nil =>
    cases l' with
    | nil =>
      cases h
      exact ⟨rfl, rfl⟩
    | cons b l' =>
      cases h
      exact absurd List.mem_cons_self hl'
  | cons b l ih =>
    cases l' with
    | nil =>
      cases h
      exact absurd List.mem_cons_self hl
    | cons b' l' =>
      obtain ⟨rfl, htail⟩ := List.cons.inj h
      obtain ⟨rfl, rfl⟩ := ih (fun hmem => hl (List.mem_cons_of_mem _ hmem))
        (fun hmem => hl' (List.mem_cons_of_mem _ hmem)) htail
      exact ⟨rfl, rfl⟩

theorem Carries.reads_line {s : S} {text : List Char} (h : Carries s text) {l : List UInt8}
    {more : List Item} (hl : lineFeed ∉ l)
    (hpending : pending s = Item.ofBytes l ++ .byte lineFeed :: more) : Reads s text := by
  obtain ⟨rest, hread, hrest, hending⟩ := readLine_bytes_lineFeed hl hpending
  have hbytes : l ++ lineFeed :: Item.bytes more = Utf8.encode text := by
    rw [← h.bytes_eq, hpending, Item.bytes_append, Item.bytes_ofBytes]
    rfl
  -- The first line feed among the bytes is the first line feed of the text.
  have hfeed : '\n' ∈ text := by
    refine lineFeed_mem_encode ?_
    rw [← hbytes]
    exact List.mem_append_right _ List.mem_cons_self
  obtain ⟨front, back, rfl, hfront⟩ := List.eq_append_cons_of_mem hfeed
  rw [Text.Utf8.encode_append, Text.Utf8.encode_lineFeed] at hbytes
  obtain ⟨rfl, hmore⟩ := eq_of_lineFeed hl (Text.Utf8.lineFeed_not_mem_encode hfront) hbytes
  have hline : readLine s =
      { bytes := Utf8.encode (front ++ ['\n']), fault := none, rest := rest } := by
    rw [hread, Text.Utf8.encode_append]
    rfl
  refine .line rfl hfront hline ⟨?_, hending.trans h.ending_eq, ?_⟩ ?_ ?_
  · intro e hmem
    rw [hrest] at hmem
    refine h.faultless e ?_
    rw [hpending]
    exact List.mem_append_right _ (List.mem_cons_of_mem _ hmem)
  · rw [hrest, hmore]
  · rw [hrest, hpending, List.length_append, List.length_cons]
    omega
  · have hline : Item.bytes (Item.ofBytes (Utf8.encode front) ++ [.byte lineFeed]) =
        Utf8.encode (front ++ ['\n']) := by
      rw [Item.bytes_append, Item.bytes_ofBytes, Text.Utf8.encode_append]
      rfl
    rw [hpending, hrest, List.append_cons]
    exact Item.uncut_append hline
      (List.not_mem_append (Item.endOfFile_not_mem_ofBytes _) (by decide)) more

theorem Carries.reads_endOfFile {s : S} {text : List Char} (h : Carries s text) {l : List UInt8}
    {more : List Item} (hl : lineFeed ∉ l)
    (hpending : pending s = Item.ofBytes l ++ .endOfFile :: more) : Reads s text := by
  obtain ⟨rest, hread, hrest, hending⟩ := readLine_bytes_endOfFile hl hpending
  have hbytes : l ++ Item.bytes more = Utf8.encode text := by
    rw [← h.bytes_eq, hpending, Item.bytes_append, Item.bytes_ofBytes]
    rfl
  cases hdecode : Utf8.decode? l with
  | none =>
    refine .cut hread hdecode fun huncut => ?_
    obtain ⟨cs, hcs⟩ := huncut _ _ hpending
    rw [Item.bytes_ofBytes] at hcs
    rw [hcs, Text.Utf8.decode?_encode] at hdecode
    cases hdecode
  | some cs =>
    obtain ⟨rfl, es, rfl, hes⟩ := Text.Utf8.eq_encode_of_decode? hbytes hdecode
    refine .pause rfl (fun hmem => hl ?_) hread ⟨?_, hending.trans h.ending_eq, ?_⟩ ?_ ?_
    · exact List.mem_flatMap.mpr ⟨_, hmem, List.mem_singleton_self _⟩
    · intro e hmem
      rw [hrest] at hmem
      refine h.faultless e ?_
      rw [hpending]
      exact List.mem_append_right _ (List.mem_cons_of_mem _ hmem)
    · rw [hrest, hes]
    · rw [hrest, hpending, List.length_append, List.length_cons]
      omega
    · rw [hpending, hrest]
      exact (Item.uncut_append (Item.bytes_ofBytes _) (Item.endOfFile_not_mem_ofBytes _) _).trans
        (Item.uncut_endOfFile more)

theorem Carries.reads_end {s : S} {text : List Char} (h : Carries s text) {l : List UInt8}
    (hl : lineFeed ∉ l) (hpending : pending s = Item.ofBytes l) : Reads s text := by
  obtain ⟨rest, hread, hrest, hending⟩ := readLine_bytes_end hl hpending
  have hbytes : l = Utf8.encode text := by
    rw [← h.bytes_eq, hpending, Item.bytes_ofBytes]
  subst hbytes
  rw [h.ending_eq] at hread
  refine .pause (r := []) (List.append_nil text).symm (fun hmem => hl ?_) hread
    ⟨?_, hending.trans h.ending_eq, ?_⟩ ?_ ?_
  · exact List.mem_flatMap.mpr ⟨_, hmem, List.mem_singleton_self _⟩
  · rw [hrest]
    exact fun e => List.not_mem_nil
  · rw [hrest]
    rfl
  · rw [hrest]
    exact Nat.zero_le _
  · rw [hrest, hpending]
    exact iff_of_true (Item.uncut_ofBytes _) (Item.uncut_ofBytes [])

theorem Carries.reads {s : S} {text : List Char} (h : Carries s text) : Reads s text := by
  obtain ⟨l, tail, hpending, hl, rfl | ⟨more, rfl⟩ | ⟨more, rfl⟩⟩ := Item.exists_ofBytes h.faultless
  · rw [List.append_nil] at hpending
    exact h.reads_end hl hpending
  · exact h.reads_line hl hpending
  · exact h.reads_endOfFile hl hpending

end Medium
end RoutingDump
