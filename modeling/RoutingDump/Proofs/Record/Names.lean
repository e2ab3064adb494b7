import RoutingDump.Proofs.Text.Boundary
import RoutingDump.Stream.Buffer

/-!
# Names on records

A record has room for a part of a name only. Characters are taken from the front as long as they
fit, and what is taken is the longest part of whole characters that does. The same part is found
from the other end, by a search in the bytes of the name from the limit down to the next place
where they may be cut.
-/

namespace RoutingDump

open Text.Utf8

section Taking

variable {budget : Nat} {cs : List Char}

/-- The texts in front that fit are the texts in front of what is taken. -/
theorem prefix_takeBytes_iff {front : List Char} :
    front <+: takeBytes budget cs ↔ front <+: cs ∧ size front ≤ budget := by
  induction cs generalizing budget front with
  | nil =>
    rw [takeBytes, List.prefix_nil]
    constructor
    · rintro rfl
      exact ⟨rfl, Nat.zero_le budget⟩
    · exact And.left
  | cons c cs ih =>
    cases front with
    | nil => simp [size]
    | cons d front =>
      rw [takeBytes, size]
      by_cases hfits : c.utf8Size ≤ budget
      · rw [if_pos hfits, List.cons_prefix_cons, List.cons_prefix_cons, ih, and_assoc]
        apply and_congr_right
        rintro rfl
        apply and_congr_right
        intro _
        omega
      · rw [if_neg hfits, List.prefix_nil, List.cons_prefix_cons]
        constructor
        · intro h
          cases h
        · rintro ⟨⟨rfl, -⟩, hsize⟩
          omega

theorem takeBytes_isPrefix (budget : Nat) (cs : List Char) : takeBytes budget cs <+: cs :=
  (prefix_takeBytes_iff.mp List.prefix_rfl).1

theorem size_takeBytes_le (budget : Nat) (cs : List Char) : size (takeBytes budget cs) ≤ budget :=
  (prefix_takeBytes_iff.mp List.prefix_rfl).2

theorem takeBytes_eq_self (h : size cs ≤ budget) : takeBytes budget cs = cs := by
  have hall : cs <+: takeBytes budget cs := prefix_takeBytes_iff.mpr ⟨List.prefix_rfl, h⟩
  exact (takeBytes_isPrefix budget cs).eq_of_length_le hall.length_le

/-- The first character left out is one that no longer fits. -/
theorem lt_size_of_left_out {c : Char} {rest : List Char}
    (h : takeBytes budget cs ++ c :: rest = cs) :
    budget < size (takeBytes budget cs) + c.utf8Size := by
  by_contra hfits
  have hlonger : takeBytes budget cs ++ [c] <+: cs :=
    ⟨rest, by rw [List.append_assoc, List.singleton_append, h]⟩
  have hsize : size (takeBytes budget cs ++ [c]) ≤ budget := by
    rw [size_append, size, size]
    omega
  have htaken := (prefix_takeBytes_iff.mpr ⟨hlonger, hsize⟩).length_le
  rw [List.length_append, List.length_singleton] at htaken
  omega

theorem lt_size_takeBytes (h : budget < size cs) : budget < size (takeBytes budget cs) + 4 := by
  obtain ⟨rest, hrest⟩ := takeBytes_isPrefix budget cs
  cases rest with
  | nil =>
    have htaken := size_takeBytes_le budget cs
    rw [List.append_nil] at hrest
    rw [hrest] at htaken
    omega
  | cons c rest =>
    have hnext := lt_size_of_left_out hrest
    have hchar := c.utf8Size_le_four
    omega

theorem lastBoundary?_encode (budget : Nat) (cs : List Char) :
    lastBoundary? (encode cs) budget = some (size (takeBytes budget cs)) := by
  have hfront := takeBytes_isPrefix budget cs
  apply lastBoundary?_eq (size_takeBytes_le budget cs) (isBoundary_of_isPrefix hfront)
  intro j hj hle
  obtain ⟨other, hother, rfl⟩ := isBoundary_encode_iff.mp hj
  exact size_le_of_isPrefix (prefix_takeBytes_iff.mpr ⟨hother, hle⟩)

end Taking

@[simp] theorem toList_truncateName (name : String) :
    (truncateName name).toList = takeBytes maxNameBytes name.toList := String.toList_ofList

theorem utf8ByteSize_truncateName (name : String) :
    (truncateName name).utf8ByteSize = size (takeBytes maxNameBytes name.toList) :=
  utf8ByteSize_ofList _

theorem truncateName_eq_self {name : String} (h : name.utf8ByteSize ≤ maxNameBytes) :
    truncateName name = name := by
  rw [← size_toList] at h
  rw [truncateName, takeBytes_eq_self h, String.ofList_toList]

theorem utf8ByteSize_truncateName_le (name : String) :
    (truncateName name).utf8ByteSize ≤ maxNameBytes := by
  rw [utf8ByteSize_truncateName]
  exact size_takeBytes_le _ _

@[simp] theorem truncateName_truncateName (name : String) :
    truncateName (truncateName name) = truncateName name :=
  truncateName_eq_self (utf8ByteSize_truncateName_le name)

/-- A name cut from behind: the search goes down from the limit to the place of the cut. It has no
result if it comes down past the first byte, or if the bytes in front of the cut are no text. -/
def cutFromBehind? (name : String) : Option String :=
  let bytes := encode name.toList
  if bytes.length ≤ maxNameBytes then some name
  else
    (lastBoundary? bytes maxNameBytes).bind fun stop =>
      (decode? (bytes.take stop)).map String.ofList

theorem cutFromBehind?_eq (name : String) : cutFromBehind? name = some (truncateName name) := by
  simp only [cutFromBehind?, length_encode, size_toList]
  by_cases h : name.utf8ByteSize ≤ maxNameBytes
  · rw [if_pos h, truncateName_eq_self h]
  · rw [if_neg h, lastBoundary?_encode, Option.bind_some, take_encode (takeBytes_isPrefix _ _),
      decode?_encode]
    rfl

namespace Resource

/-- The resource under the names that its records bear. -/
def underShortNames (r : Resource) : Resource :=
  { r with project := truncateName r.project, collector := truncateName r.collector }

theorem origin_underShortNames (r : Resource) : r.underShortNames.origin = r.origin := by
  simp [origin, underShortNames]

end Resource

/-- `short` is the longest text in front of `name` that takes up no more than `limit` bytes. -/
structure LongestFit (limit : Nat) (name short : String) : Prop where
  front : short.toList <+: name.toList
  fits : short.utf8ByteSize ≤ limit
  longest : ∀ longer : List Char, longer <+: name.toList → short.toList.length < longer.length →
    limit < (String.ofList longer).utf8ByteSize

theorem longestFit_truncateName (name : String) :
    LongestFit maxNameBytes name (truncateName name) where
  front := by
    rw [toList_truncateName]
    exact takeBytes_isPrefix _ _
  fits := utf8ByteSize_truncateName_le name
  longest longer hfront hlonger := by
    rw [toList_truncateName] at hlonger
    rw [utf8ByteSize_ofList]
    by_contra hfits
    have htaken := prefix_takeBytes_iff.mpr ⟨hfront, Nat.le_of_not_lt hfits⟩
    exact Nat.not_le_of_lt hlonger htaken.length_le

/-- What a record bears of a name. -/
structure ShortName (name : String) : Prop where
  longestFit : LongestFit 31 name (truncateName name)
  eq_self : name.utf8ByteSize ≤ 31 → truncateName name = name
  idempotent : truncateName (truncateName name) = truncateName name
  size_ge : 31 < name.utf8ByteSize → 28 ≤ (truncateName name).utf8ByteSize
  /-- The search ends where the name is cut, so not more than three bytes below the limit. -/
  search : 31 < name.utf8ByteSize →
    lastBoundary? (encode name.toList) 31 = some (truncateName name).utf8ByteSize
  fromBehind : cutFromBehind? name = some (truncateName name)

theorem shortName (name : String) : ShortName name where
  longestFit := longestFit_truncateName name
  eq_self h := truncateName_eq_self h
  idempotent := truncateName_truncateName name
  size_ge h := by
    rw [← size_toList] at h
    have hsize := lt_size_takeBytes h
    rw [utf8ByteSize_truncateName]
    show 28 ≤ size (takeBytes 31 name.toList)
    omega
  search _ := by
    rw [utf8ByteSize_truncateName]
    exact lastBoundary?_encode 31 name.toList
  fromBehind := cutFromBehind?_eq name

/-- Records bear the longest parts of the names of their resource that fit, and bear the same if
the resource has no more than these to begin with. -/
theorem names_on_records :
    (∀ name, ShortName name) ∧
      ∀ {σ P : Type} (D : Decoder σ P) (state : σ) (record : Record P) (resource : Resource),
        record.stamp resource.underShortNames = record.stamp resource ∧
          Buffer.allocate D resource.underShortNames state = Buffer.allocate D resource state ∧
            (Record.ofFailedOpen resource.underShortNames : Record P) =
              Record.ofFailedOpen resource := by
  refine ⟨shortName, fun D state record resource => ?_⟩
  have horigin := resource.origin_underShortNames
  unfold Record.stamp Buffer.allocate Record.ofFailedOpen
  rw [horigin]
  exact ⟨rfl, rfl, rfl⟩

-- A character that would take the place of bytes 29 to 32 is left out as a whole.
example : (truncateName (String.ofList (List.replicate 28 'c' ++ ['😀', 'c']))).toList =
    List.replicate 28 'c' := by decide

end RoutingDump
