import RoutingDump.Configuration.Json
import Mathlib.Data.List.DropRight

/-!
# What a file gives

The members of an object and the elements of a list are put here as relations between a text and the
fields that stand in it. A file gives a field the value under its key, which comes at most once, or
the value in its place of a list. Reading a text comes to exactly that.
-/

namespace RoutingDump

open Json (skipSpace skipColon skipValue readQuoted readNatural)

theorem Setting.mem_all (s : Setting) : s ∈ Setting.all := by cases s <;> decide

theorem Setting.ofKey?_eq_some_iff {key : List Char} {s : Setting} :
    Setting.ofKey? key = some s ↔ key = s.key.toList := by
  constructor
  · intro h
    have hkey := List.find?_some (p := fun s : Setting => s.key.toList == key) h
    exact (beq_iff_eq.mp hkey).symm
  · rintro rfl
    cases s <;> decide

theorem Setting.ofKey?_eq_none_iff {key : List Char} :
    Setting.ofKey? key = none ↔ ∀ s : Setting, key ≠ s.key.toList := by
  constructor
  · intro h s hkey
    rw [Setting.ofKey?_eq_some_iff.mpr hkey] at h
    cases h
  · intro h
    cases hs : Setting.ofKey? key with
    | none => rfl
    | some s => exact absurd (Setting.ofKey?_eq_some_iff.mp hs) (h s)

namespace Layer

/-- Every value fits into its field. -/
def InRange (l : Layer) : Prop := ∀ s n, l s = some n → n ≤ s.limit

theorem inRange_none : none.InRange := nofun

theorem InRange.set {l : Layer} (h : l.InRange) {s : Setting} {n : Nat} (hn : n ≤ s.limit) :
    (l.set s n).InRange := by
  intro s' n' hvalue
  rw [Layer.set] at hvalue
  by_cases hs : s' = s
  · rw [if_pos hs] at hvalue
    cases hvalue
    rw [hs]
    exact hn
  · rw [if_neg hs] at hvalue
    exact h s' n' hvalue

/-- The layer with further fields set one after the other. -/
def putAll (l : Layer) (fs : List (Setting × Nat)) : Layer :=
  fs.foldl (fun l f => l.set f.1 f.2) l

/-- No field comes twice, and none has a value yet. -/
def Fresh (l : Layer) (fs : List (Setting × Nat)) : Prop :=
  (fs.map Prod.fst).Nodup ∧ ∀ s ∈ fs.map Prod.fst, l s = Option.none

theorem fresh_cons {l : Layer} {s : Setting} {n : Nat} {fs : List (Setting × Nat)} :
    l.Fresh ((s, n) :: fs) ↔ l s = Option.none ∧ (l.set s n).Fresh fs := by
  unfold Fresh
  rw [List.map_cons, List.nodup_cons, List.forall_mem_cons]
  constructor
  · rintro ⟨⟨hs, hnodup⟩, hnone, hfs⟩
    refine ⟨hnone, hnodup, fun s' hs' => ?_⟩
    rw [set, if_neg (fun heq : s' = s => hs (heq ▸ hs'))]
    exact hfs s' hs'
  · rintro ⟨hnone, hnodup, hfs⟩
    refine ⟨⟨fun hs => ?_, hnodup⟩, hnone, fun s' hs' => ?_⟩
    · have hset := hfs s hs
      rw [set, if_pos rfl] at hset
      cases hset
    · have hset := hfs s' hs'
      rw [set] at hset
      split at hset
      · cases hset
      · exact hset

/-- The layer that has the values of some fields and no other. -/
def ofFields (fs : List (Setting × Nat)) : Layer := fun s => fs.lookup s

theorem putAll_eq {l : Layer} {fs : List (Setting × Nat)} (h : l.Fresh fs) (s : Setting) :
    l.putAll fs s = (fs.lookup s).or (l s) := by
  induction fs generalizing l with
  | nil => rfl
  | cons f fs ih =>
    obtain ⟨s', n⟩ := f
    obtain ⟨hnone, hfresh⟩ := fresh_cons.mp h
    show (l.set s' n).putAll fs s = _
    rw [ih hfresh, set, List.lookup_cons]
    by_cases hs : s = s'
    · have hmem : s' ∉ fs.map Prod.fst := (List.nodup_cons.mp h.1).1
      have hlookup : fs.lookup s' = Option.none := by
        rw [List.lookup_eq_none_iff]
        intro f hf
        exact bne_iff_ne.mpr fun heq : s' = f.1 => hmem (heq ▸ List.mem_map_of_mem hf)
      rw [hs, hlookup, if_pos rfl, beq_self_eq_true]
      rfl
    · rw [if_neg hs, beq_eq_false_iff_ne.mpr hs]

theorem putAll_none {fs : List (Setting × Nat)} (h : (fs.map Prod.fst).Nodup) :
    Layer.none.putAll fs = ofFields fs :=
  funext fun s => (putAll_eq ⟨h, fun _ _ => rfl⟩ s).trans (Option.or_none)

end Layer

namespace Configuration

/-- The fields among the members of an object, up to its closing brace. -/
inductive Members : (first : Bool) → List Char → List (Setting × Nat) → List Char → Prop
  | close {first : Bool} {cs rest : List Char} (hnext : nextMember first cs = .ok (.close rest)) :
    Members first cs [] rest
  | field {first : Bool} {cs r₀ r₁ r₂ r₃ rest : List Char} {s : Setting} {n : Nat}
    {fs : List (Setting × Nat)} (hnext : nextMember first cs = .ok (.key r₀))
    (hkey : readQuoted r₀ = .ok (s.key.toList, r₁)) (hcolon : skipColon r₁ = .ok r₂)
    (hvalue : readNatural s.limit r₂ = .ok (n, r₃)) (hlater : Members false r₃ fs rest) :
    Members first cs ((s, n) :: fs) rest
  | other {first : Bool} {cs r₀ key r₁ r₂ r₃ rest : List Char} {fs : List (Setting × Nat)}
    (hnext : nextMember first cs = .ok (.key r₀)) (hkey : readQuoted r₀ = .ok (key, r₁))
    (hother : ∀ s : Setting, key ≠ s.key.toList) (hcolon : skipColon r₁ = .ok r₂)
    (hvalue : skipValue r₂ = .ok r₃) (hlater : Members false r₃ fs rest) :
    Members first cs fs rest

/-- The elements of a list with the fields whose places they have, up to its closing bracket. -/
inductive Elements : (first : Bool) → List Setting → List Char → List (Setting × Nat) →
    List Char → Prop
  | close {first : Bool} {ss : List Setting} {cs rest : List Char}
    (hclose : skipSpace cs = ']' :: rest) : Elements first ss cs [] rest
  | first {s : Setting} {ss : List Setting} {cs r rest : List Char} {n : Nat}
    {fs : List (Setting × Nat)} (hvalue : readNatural s.limit cs = .ok (n, r))
    (hlater : Elements false ss r fs rest) : Elements true (s :: ss) cs ((s, n) :: fs) rest
  | later {s : Setting} {ss : List Setting} {cs r₀ r₁ rest : List Char} {n : Nat}
    {fs : List (Setting × Nat)} (hcomma : skipSpace cs = ',' :: r₀)
    (hvalue : readNatural s.limit r₀ = .ok (n, r₁)) (hlater : Elements false ss r₁ fs rest) :
    Elements false (s :: ss) cs ((s, n) :: fs) rest

/-- The fields that a text gives, under their keys in an object or by their places in a list. -/
inductive Written (text : List Char) : List (Setting × Nat) → Prop
  | object {r rest : List Char} {fs : List (Setting × Nat)} (hopen : skipSpace text = '{' :: r)
    (hmembers : Members true r fs rest) (honce : (fs.map Prod.fst).Nodup)
    (hend : skipSpace rest = []) : Written text fs
  | list {r rest : List Char} {fs : List (Setting × Nat)} (hopen : skipSpace text = '[' :: r)
    (helements : Elements true Setting.all r fs rest) (hend : skipSpace rest = []) :
    Written text fs

/-! ### Numbers -/

theorem skipSpace_of_skipSpace {cs r : List Char} {c : Char} (h : skipSpace cs = c :: r) :
    skipSpace (c :: r) = c :: r := by
  rw [← h]
  exact List.dropWhile_idempotent _ _

theorem readNatural_of_skipSpace {cs r : List Char} {c : Char} (h : skipSpace cs = c :: r)
    (limit : Nat) : readNatural limit (c :: r) = readNatural limit cs := by
  unfold readNatural
  rw [skipSpace_of_skipSpace h, h]

/-- No number starts with a bracket. -/
theorem start_of_readNatural {limit n : Nat} {cs r : List Char}
    (h : readNatural limit cs = .ok (n, r)) : ∃ c t, skipSpace cs = c :: t ∧ c ≠ ']' := by
  unfold readNatural at h
  split at h
  · cases h
  · rename_i c t hspace
    refine ⟨c, t, hspace, ?_⟩
    rintro rfl
    cases h

theorem le_of_readNatural {limit n : Nat} {cs r : List Char}
    (h : readNatural limit cs = .ok (n, r)) : n ≤ limit := by
  unfold readNatural at h
  split at h
  · cases h
  · split at h
    · split at h
      · cases h
      · split at h
        · rename_i hn
          cases h
          exact hn
        · cases h
      · cases h
    · cases h

/-! ### Objects -/

theorem readMembers_of_close {first : Bool} {cs rest : List Char}
    (h : nextMember first cs = .ok (.close rest)) (l : Layer) :
    readMembers first l cs = .ok (l, rest) := by
  rw [readMembers]
  split <;> rename_i hnext <;> rw [h] at hnext <;> cases hnext
  rfl

theorem readMembers_of_key {first : Bool} {cs r : List Char}
    (h : nextMember first cs = .ok (.key r)) (l : Layer) :
    readMembers first l cs =
      match readMember l r with
      | .error e => .error e
      | .ok (l', r') => readMembers false l' r' := by
  rw [readMembers]
  split <;> rename_i hnext <;> rw [h] at hnext <;> cases hnext
  split <;> rename_i hmember <;> simp only [hmember]

theorem readField_eq_ok_iff {s : Setting} {l l' : Layer} {cs r : List Char} :
    readField s l cs = .ok (l', r) ↔
      ∃ n, readNatural s.limit cs = .ok (n, r) ∧ l' = l.set s n := by
  constructor
  · intro h
    unfold readField at h
    split at h
    · cases h
    · rename_i n r' hvalue
      cases h
      exact ⟨n, hvalue, rfl⟩
  · rintro ⟨n, hvalue, rfl⟩
    rw [readField, hvalue]

theorem readMember_eq_ok_iff {l l' : Layer} {cs r : List Char} :
    readMember l cs = .ok (l', r) ↔
      ∃ key r₁ r₂, readQuoted cs = .ok (key, r₁) ∧ skipColon r₁ = .ok r₂ ∧
        ((∃ s n, key = s.key.toList ∧ l s = none ∧ readNatural s.limit r₂ = .ok (n, r) ∧
            l' = l.set s n) ∨
          (∀ s : Setting, key ≠ s.key.toList) ∧ skipValue r₂ = .ok r ∧ l' = l) := by
  constructor
  · intro h
    unfold readMember at h
    split at h
    · cases h
    · rename_i key r₁ hquoted
      split at h
      · rename_i s hs
        split at h
        · cases h
        · rename_i hnone
          split at h
          · cases h
          · rename_i r₂ hcolon
            obtain ⟨n, hvalue, rfl⟩ := readField_eq_ok_iff.mp h
            exact ⟨key, r₁, r₂, hquoted, hcolon, .inl ⟨s, n, Setting.ofKey?_eq_some_iff.mp hs,
              Option.not_isSome_iff_eq_none.mp hnone, hvalue, rfl⟩⟩
      · rename_i hs
        split at h
        · cases h
        · rename_i r₂ hcolon
          split at h
          · cases h
          · rename_i r₃ hvalue
            cases h
            exact ⟨key, r₁, r₂, hquoted, hcolon,
              .inr ⟨Setting.ofKey?_eq_none_iff.mp hs, hvalue, rfl⟩⟩
  · rintro ⟨key, r₁, r₂, hquoted, hcolon, ⟨s, n, hkey, hnone, hvalue, rfl⟩ | ⟨hother, hvalue, rfl⟩⟩
    · rw [readMember, hquoted]
      dsimp only
      rw [Setting.ofKey?_eq_some_iff.mpr hkey]
      dsimp only
      rw [hnone, if_neg (by decide), hcolon]
      exact readField_eq_ok_iff.mpr ⟨n, hvalue, rfl⟩
    · rw [readMember, hquoted]
      dsimp only
      rw [Setting.ofKey?_eq_none_iff.mpr hother]
      dsimp only
      rw [hcolon]
      dsimp only
      rw [hvalue]

/-- Reading the members of an object takes each field once, in front of which it has no value. -/
theorem readMembers_eq_ok_iff {first : Bool} {l l' : Layer} {cs rest : List Char} :
    readMembers first l cs = .ok (l', rest) ↔
      ∃ fs, Members first cs fs rest ∧ l.Fresh fs ∧ l' = l.putAll fs := by
  constructor
  · intro h
    fun_induction readMembers first l cs with
    | case1 | case3 => cases h
    | case2 first l cs r hnext =>
      cases h
      exact ⟨[], .close hnext, ⟨List.nodup_nil, nofun⟩, rfl⟩
    | case4 first l cs r hnext l₁ r₃ hmember hlt hlt' ih =>
      obtain ⟨fs, hlater, hfresh, rfl⟩ := ih h
      obtain ⟨key, r₁, r₂, hquoted, hcolon, hvalue⟩ := readMember_eq_ok_iff.mp hmember
      rcases hvalue with ⟨s, n, rfl, hnone, hvalue, rfl⟩ | ⟨hother, hvalue, rfl⟩
      · exact ⟨(s, n) :: fs, .field hnext hquoted hcolon hvalue hlater,
          Layer.fresh_cons.mpr ⟨hnone, hfresh⟩, rfl⟩
      · exact ⟨fs, .other hnext hquoted hother hcolon hvalue hlater, hfresh, rfl⟩
  · rintro ⟨fs, hmembers, hfresh, rfl⟩
    induction hmembers generalizing l with
    | close hnext => exact readMembers_of_close hnext l
    | @field first cs r₀ r₁ r₂ r₃ rest s n fs hnext hkey hcolon hvalue hlater ih =>
      obtain ⟨hnone, hfresh⟩ := Layer.fresh_cons.mp hfresh
      have hmember : readMember l r₀ = .ok (l.set s n, r₃) := readMember_eq_ok_iff.mpr
        ⟨_, r₁, r₂, hkey, hcolon, .inl ⟨s, n, rfl, hnone, hvalue, rfl⟩⟩
      rw [readMembers_of_key hnext, hmember]
      exact ih hfresh
    | @other first cs r₀ key r₁ r₂ r₃ rest fs hnext hkey hother hcolon hvalue hlater ih =>
      have hmember : readMember l r₀ = .ok (l, r₃) := readMember_eq_ok_iff.mpr
        ⟨key, r₁, r₂, hkey, hcolon, .inr ⟨hother, hvalue, rfl⟩⟩
      rw [readMembers_of_key hnext, hmember]
      exact ih hfresh

/-! ### Lists -/

theorem readElements_of_close {first : Bool} {l : Layer} {ss : List Setting}
    {cs rest : List Char} (h : skipSpace cs = ']' :: rest) :
    readElements first l ss cs = .ok (l, rest) := by
  cases ss with
  | nil | cons =>
    rw [readElements, h]
    exact if_pos rfl

theorem readElements_of_first {l : Layer} {s : Setting} {ss : List Setting} {cs r : List Char}
    {n : Nat} (h : readNatural s.limit cs = .ok (n, r)) :
    readElements true l (s :: ss) cs = readElements false (l.set s n) ss r := by
  obtain ⟨c, t, hspace, hc⟩ := start_of_readNatural h
  rw [readElements, hspace]
  dsimp only
  rw [if_neg hc, if_pos rfl, readField, readNatural_of_skipSpace hspace, h]

theorem readElements_of_later {l : Layer} {s : Setting} {ss : List Setting}
    {cs r₀ r₁ : List Char} {n : Nat} (hcomma : skipSpace cs = ',' :: r₀)
    (h : readNatural s.limit r₀ = .ok (n, r₁)) :
    readElements false l (s :: ss) cs = readElements false (l.set s n) ss r₁ := by
  obtain ⟨c, t, hspace, hc⟩ := start_of_readNatural h
  rw [readElements, hcomma]
  dsimp only
  rw [if_neg (by decide), if_neg (by decide), if_pos rfl, hspace]
  dsimp only
  rw [if_neg hc, readField, readNatural_of_skipSpace hspace, h]

theorem readElements_eq_ok_iff {first : Bool} {l l' : Layer} {ss : List Setting}
    {cs rest : List Char} :
    readElements first l ss cs = .ok (l', rest) ↔
      ∃ fs, Elements first ss cs fs rest ∧ l' = l.putAll fs := by
  constructor
  · intro h
    induction ss generalizing first l cs with
    | nil =>
      unfold readElements at h
      split at h
      · cases h
      · rename_i c r hspace
        split at h
        · rename_i hc
          cases h
          exact ⟨[], .close (hc ▸ hspace), rfl⟩
        · cases h
    | cons s ss ih =>
      unfold readElements at h
      split at h
      · cases h
      · rename_i c r hspace
        split at h
        · rename_i hc
          cases h
          exact ⟨[], .close (hc ▸ hspace), rfl⟩
        · split at h
          · rename_i hfirst
            subst hfirst
            split at h
            · cases h
            · rename_i l₁ r₁ hfield
              obtain ⟨n, hvalue, rfl⟩ := readField_eq_ok_iff.mp hfield
              obtain ⟨fs, hlater, rfl⟩ := ih h
              rw [readNatural_of_skipSpace hspace] at hvalue
              exact ⟨(s, n) :: fs, .first hvalue hlater, rfl⟩
          · rename_i hfirst
            cases Bool.eq_false_iff.mpr hfirst
            split at h
            · rename_i hc
              split at h
              · cases h
              · rename_i hspace'
                split at h
                · cases h
                · split at h
                  · cases h
                  · rename_i l₁ r₁ hfield
                    obtain ⟨n, hvalue, rfl⟩ := readField_eq_ok_iff.mp hfield
                    obtain ⟨fs, hlater, rfl⟩ := ih h
                    rw [readNatural_of_skipSpace hspace'] at hvalue
                    exact ⟨(s, n) :: fs, .later (hc ▸ hspace) hvalue hlater, rfl⟩
            · cases h
  · rintro ⟨fs, helements, rfl⟩
    induction helements generalizing l with
    | close hclose => exact readElements_of_close hclose
    | first hvalue hlater ih => exact (readElements_of_first hvalue).trans ih
    | later hcomma hvalue hlater ih => exact (readElements_of_later hcomma hvalue).trans ih

/-- A list gives its values to the first fields. -/
theorem Elements.fields_isPrefix {first : Bool} {ss : List Setting} {cs rest : List Char}
    {fs : List (Setting × Nat)} (h : Elements first ss cs fs rest) :
    fs.map Prod.fst <+: ss := by
  induction h with
  | close hclose => exact List.nil_prefix
  | first hvalue hlater ih | later hcomma hvalue hlater ih =>
    exact List.cons_prefix_cons.mpr ⟨rfl, ih⟩

theorem Elements.nodup {first : Bool} {cs rest : List Char} {fs : List (Setting × Nat)}
    (h : Elements first Setting.all cs fs rest) : (fs.map Prod.fst).Nodup :=
  List.Nodup.sublist h.fields_isPrefix.sublist (by decide)

/-! ### Whole texts -/

theorem Members.le {first : Bool} {cs rest : List Char} {fs : List (Setting × Nat)}
    (h : Members first cs fs rest) : ∀ f ∈ fs, f.2 ≤ f.1.limit := by
  induction h with
  | close hnext => exact nofun
  | field hnext hkey hcolon hvalue hlater ih =>
    exact List.forall_mem_cons.mpr ⟨le_of_readNatural hvalue, ih⟩
  | other hnext hkey hother hcolon hvalue hlater ih => exact ih

theorem Elements.le {first : Bool} {ss : List Setting} {cs rest : List Char}
    {fs : List (Setting × Nat)} (h : Elements first ss cs fs rest) :
    ∀ f ∈ fs, f.2 ≤ f.1.limit := by
  induction h with
  | close hclose => exact nofun
  | first hvalue hlater ih | later hcomma hvalue hlater ih =>
    exact List.forall_mem_cons.mpr ⟨le_of_readNatural hvalue, ih⟩

theorem Written.inRange {text : List Char} {fs : List (Setting × Nat)} (h : Written text fs) :
    (Layer.ofFields fs).InRange := by
  have hle : ∀ f ∈ fs, f.2 ≤ f.1.limit := by
    cases h with
    | object hopen hmembers => exact hmembers.le
    | list hopen helements => exact helements.le
  intro s n hlookup
  obtain ⟨front, back, hfs, -⟩ := List.lookup_eq_some_iff.mp hlookup
  exact hle (s, n) (by simp [hfs])

theorem readLayer_eq_ok_iff {text : List Char} {l : Layer} :
    readLayer text = .ok l ↔ ∃ fs, Written text fs ∧ l = Layer.ofFields fs := by
  constructor
  · intro h
    unfold readLayer at h
    split at h
    · cases h
    · rename_i c r hopen
      dsimp only at h
      split at h
      · cases h
      · rename_i l' rest hvalue
        split at h
        · rename_i hend
          cases h
          have hend := List.isEmpty_iff.mp hend
          split at hvalue
          · rename_i hc
            obtain ⟨fs, helements, rfl⟩ := readElements_eq_ok_iff.mp hvalue
            exact ⟨fs, .list (hc ▸ hopen) helements hend, Layer.putAll_none helements.nodup⟩
          · split at hvalue
            · rename_i hc
              obtain ⟨fs, hmembers, hfresh, rfl⟩ := readMembers_eq_ok_iff.mp hvalue
              exact ⟨fs, .object (hc ▸ hopen) hmembers hfresh.1 hend, Layer.putAll_none hfresh.1⟩
            · cases hvalue
        · cases h
  · rintro ⟨fs, hwritten, rfl⟩
    cases hwritten with
    | @object r rest fs hopen hmembers honce hend =>
      have hfresh : Layer.none.Fresh fs := ⟨honce, fun _ _ => rfl⟩
      have hvalue := readMembers_eq_ok_iff.mpr ⟨fs, hmembers, hfresh, rfl⟩
      rw [Layer.putAll_none honce] at hvalue
      rw [readLayer, hopen]
      dsimp only
      rw [if_neg (by decide), if_pos rfl, hvalue]
      dsimp only
      rw [hend, if_pos (by decide)]
    | @list r rest fs hopen helements hend =>
      have hvalue := readElements_eq_ok_iff.mpr ⟨fs, helements, Eq.refl (Layer.none.putAll fs)⟩
      rw [Layer.putAll_none helements.nodup] at hvalue
      rw [readLayer, hopen]
      dsimp only
      rw [if_pos rfl, hvalue]
      dsimp only
      rw [hend, if_pos (by decide)]

end Configuration
end RoutingDump
