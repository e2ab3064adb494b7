/-!
# UTF-8

Sources deliver bytes and lines are text, so the bytes of one read are decoded before they join
the pending line. The decoder reads a list of bytes from the left and remembers the character it
is in the middle of. It takes each character in its shortest form only and takes no surrogates.
-/

namespace RoutingDump
namespace Text
namespace Utf8

/-- The bytes of one character. -/
def encodeChar (c : Char) : List UInt8 := String.utf8EncodeChar c

/-- The bytes of a text. -/
def encode (cs : List Char) : List UInt8 := cs.flatMap encodeChar

/-- The number of bytes of a text. -/
def size : List Char → Nat
  | [] => 0
  | c :: cs => c.utf8Size + size cs

/-- What a first byte announces: how many bytes follow, the leading bits of the code, and the
least code that needs a character of this length. -/
def lead? (b : UInt8) : Option (Nat × Nat × Nat) :=
  let n := b.toNat
  if n < 0x80 then some (0, n, 0)
  else if n < 0xC0 then none
  else if n < 0xE0 then some (1, n - 0xC0, 0x80)
  else if n < 0xF0 then some (2, n - 0xE0, 0x800)
  else if n < 0xF8 then some (3, n - 0xF0, 0x10000)
  else none

/-- The six bits of a byte that continues a character. -/
def continuation? (b : UInt8) : Option Nat :=
  if 0x80 ≤ b.toNat ∧ b.toNat < 0xC0 then some (b.toNat - 0x80) else none

/-- The character with the given code, unless the code is no scalar value or is below `least`. -/
def scalar? (least code : Nat) : Option Char :=
  if h : code.isValidChar then
    if least ≤ code then some (Char.ofNatAux code h) else none
  else none

/-- Where the decoder stands: between two characters, or in a character that lacks
`missing + 1` more bytes. -/
inductive Progress where
  | between
  | within (missing code least : Nat)
  deriving DecidableEq, Repr

/-- Decodes on from a text already decoded, which is kept in reverse. -/
def decodeFrom (decoded : List Char) : Progress → List UInt8 → Option (List Char)
  | .between, [] => some decoded.reverse
  | .within _ _ _, [] => none
  | .between, b :: bs =>
    match lead? b with
    | none => none
    | some (0, code, least) =>
      match scalar? least code with
      | none => none
      | some c => decodeFrom (c :: decoded) .between bs
    | some (missing + 1, code, least) => decodeFrom decoded (.within missing code least) bs
  | .within missing code least, b :: bs =>
    match continuation? b with
    | none => none
    | some bits =>
      match missing with
      | 0 =>
        match scalar? least (code * 0x40 + bits) with
        | none => none
        | some c => decodeFrom (c :: decoded) .between bs
      | missing + 1 => decodeFrom decoded (.within missing (code * 0x40 + bits) least) bs

/-- The text that a list of bytes stands for, if it stands for one. -/
def decode? (bs : List UInt8) : Option (List Char) := decodeFrom [] .between bs

@[simp] theorem decode?_nil : decode? [] = some [] := rfl

/-- What is already decoded stays in front. -/
theorem decodeFrom_eq_map (decoded : List Char) (p : Progress) (bs : List UInt8) :
    decodeFrom decoded p bs = (decodeFrom [] p bs).map (decoded.reverse ++ ·) := by
  induction bs generalizing decoded p with
  | nil => cases p <;> simp [decodeFrom]
  | cons b bs ih =>
    cases p with
    | between =>
      simp only [decodeFrom]
      split
      · rfl
      · split
        · rfl
        · rename_i c _
          rw [ih (c :: decoded), ih [c]]
          cases decodeFrom [] .between bs <;> simp
      · exact ih decoded _
    | within missing code least =>
      simp only [decodeFrom]
      split
      · rfl
      · split
        · split
          · rfl
          · rename_i c _
            rw [ih (c :: decoded), ih [c]]
            cases decodeFrom [] .between bs <;> simp
        · exact ih decoded _

theorem scalar?_toNat {least : Nat} {c : Char} (h : least ≤ c.toNat) :
    scalar? least c.toNat = some c := by
  have hv : c.toNat.isValidChar := c.valid
  unfold scalar?
  rw [dif_pos hv, if_pos h]
  rfl

theorem toNat_ofNat_of_lt {n : Nat} (h : n < 256) : (UInt8.ofNat n).toNat = n := by
  rw [UInt8.toNat_ofNat']
  exact Nat.mod_eq_of_lt h

theorem continuation?_ofNat {n : Nat} (h : n < 64) :
    continuation? (UInt8.ofNat (n + 128)) = some n := by
  unfold continuation?
  rw [toNat_ofNat_of_lt (by omega), if_pos (by omega)]
  simp

theorem toNat_lt (c : Char) : c.toNat < 0x110000 := by
  have hv : c.toNat.isValidChar := c.valid
  rcases hv with h | h <;> omega

/-- The bytes of a character are read as that character. -/
theorem decodeFrom_encodeChar (decoded : List Char) (c : Char) (bs : List UInt8) :
    decodeFrom decoded .between (encodeChar c ++ bs) = decodeFrom (c :: decoded) .between bs := by
  have hc := toNat_lt c
  have hval : c.val.toNat = c.toNat := rfl
  simp only [encodeChar, String.utf8EncodeChar, hval]
  split
  · have hlead : lead? (UInt8.ofNat c.toNat) = some (0, c.toNat, 0) := by
      unfold lead?
      rw [toNat_ofNat_of_lt (by omega), if_pos (by omega)]
    simp only [List.cons_append, List.nil_append, decodeFrom, hlead,
      scalar?_toNat (Nat.zero_le _)]
  · split
    · have hlead : lead? (UInt8.ofNat (c.toNat / 64 % 32 + 192))
          = some (1, c.toNat / 64 % 32, 0x80) := by
        unfold lead?
        rw [toNat_ofNat_of_lt (by omega), if_neg (by omega), if_neg (by omega), if_pos (by omega)]
        simp
      have hcode : c.toNat / 64 % 32 * 64 + c.toNat % 64 = c.toNat := by omega
      simp only [List.cons_append, List.nil_append, decodeFrom, hlead,
        continuation?_ofNat (show c.toNat % 64 < 64 by omega), hcode,
        scalar?_toNat (show 0x80 ≤ c.toNat by omega)]
    · split
      · have hlead : lead? (UInt8.ofNat (c.toNat / 4096 % 16 + 224))
            = some (2, c.toNat / 4096 % 16, 0x800) := by
          unfold lead?
          rw [toNat_ofNat_of_lt (by omega), if_neg (by omega), if_neg (by omega),
            if_neg (by omega), if_pos (by omega)]
          simp
        have hcode : (c.toNat / 4096 % 16 * 64 + c.toNat / 64 % 64) * 64 + c.toNat % 64
            = c.toNat := by omega
        simp only [List.cons_append, List.nil_append, decodeFrom, hlead,
          continuation?_ofNat (show c.toNat / 64 % 64 < 64 by omega),
          continuation?_ofNat (show c.toNat % 64 < 64 by omega), hcode,
          scalar?_toNat (show 0x800 ≤ c.toNat by omega)]
      · have hlead : lead? (UInt8.ofNat (c.toNat / 262144 % 8 + 240))
            = some (3, c.toNat / 262144 % 8, 0x10000) := by
          unfold lead?
          rw [toNat_ofNat_of_lt (by omega), if_neg (by omega), if_neg (by omega),
            if_neg (by omega), if_neg (by omega), if_pos (by omega)]
          simp
        have hcode : ((c.toNat / 262144 % 8 * 64 + c.toNat / 4096 % 64) * 64
            + c.toNat / 64 % 64) * 64 + c.toNat % 64 = c.toNat := by omega
        simp only [List.cons_append, List.nil_append, decodeFrom, hlead,
          continuation?_ofNat (show c.toNat / 4096 % 64 < 64 by omega),
          continuation?_ofNat (show c.toNat / 64 % 64 < 64 by omega),
          continuation?_ofNat (show c.toNat % 64 < 64 by omega), hcode,
          scalar?_toNat (show 0x10000 ≤ c.toNat by omega)]

/-- Reading gives back what was written. -/
theorem decode?_encode (cs : List Char) : decode? (encode cs) = some cs := by
  suffices h : ∀ decoded, decodeFrom decoded .between (encode cs) = some (decoded.reverse ++ cs) by
    simpa [decode?] using h []
  induction cs with
  | nil => intro decoded; simp [encode, decodeFrom]
  | cons c cs ih =>
    intro decoded
    have hcons : encode (c :: cs) = encodeChar c ++ encode cs := by simp [encode]
    rw [hcons, decodeFrom_encodeChar, ih]
    simp

end Utf8
end Text
end RoutingDump
