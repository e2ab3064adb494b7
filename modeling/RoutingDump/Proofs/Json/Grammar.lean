import RoutingDump.Json.Skip
import RoutingDump.Proofs.Text.Numeral

/-!
# The grammar of JSON

What is well-formed is said here without regard to how a text is read. A value may be nested as
deep as its text is long, so the forms of a text that contain each other make up one relation. The
scanners of numbers and quoted texts pass what the grammar allows and stop right behind it.
-/

namespace RoutingDump
namespace Json

/-! ### Forms of a text -/

/-- Space between tokens. -/
def Space (ws : List Char) : Prop := ∀ c ∈ ws, c ∈ [' ', '\n', '\t', '\r']

/-- One or more digits. -/
def Digits (ds : List Char) : Prop := ds ≠ [] ∧ ∀ c ∈ ds, isDigit c = true

/-- A natural number in decimal. A zero in front stands alone. -/
inductive Integer : (ds : List Char) → (n : Nat) → Prop
  | zero : Integer ['0'] 0
  | digits {d : Char} {ds : List Char} (hd : d ≠ '0') (hdigits : Digits (d :: ds)) :
    Integer (d :: ds) (Text.digitsValue (d :: ds))

inductive Fraction : List Char → Prop
  | none : Fraction []
  | digits {ds : List Char} (hdigits : Digits ds) : Fraction ('.' :: ds)

inductive Exponent : List Char → Prop
  | none : Exponent []
  | digits {e : Char} {sign ds : List Char} (he : e = 'e' ∨ e = 'E')
    (hsign : sign = [] ∨ sign = ['+'] ∨ sign = ['-']) (hdigits : Digits ds) :
    Exponent (e :: (sign ++ ds))

/-- A number without its sign. -/
inductive Magnitude : List Char → Prop
  | parts {ds fraction exponent : List Char} {n : Nat} (hint : Integer ds n)
    (hfraction : Fraction fraction) (hexponent : Exponent exponent) :
    Magnitude (ds ++ fraction ++ exponent)

/-- The letters that may follow a backslash, with the characters that they stand for. -/
def letterEscapes : List (Char × Char) :=
  [('"', '"'), ('\\', '\\'), ('/', '/'), ('b', '\x08'), ('f', '\x0c'), ('n', '\n'), ('r', '\r'),
    ('t', '\t')]

inductive HexDigit : Char → Nat → Prop
  | lower {d : Nat} (hd : d < 16) : HexDigit d.digitChar d
  | upper {d : Nat} (hd : d < 16) : HexDigit d.digitChar.toUpper d

/-- Four hexadecimal digits and their value. -/
inductive HexQuad : List Char → Nat → Prop
  | digits {a b c d : Char} {x y z w : Nat} (ha : HexDigit a x) (hb : HexDigit b y)
    (hc : HexDigit c z) (hd : HexDigit d w) :
    HexQuad [a, b, c, d] (((x * 16 + y) * 16 + z) * 16 + w)

/-- What stands between two quotes as it is. -/
def Plain (c : Char) : Prop := c ≠ '"' ∧ c ≠ '\\' ∧ 0x20 ≤ c.toNat

instance : DecidablePred Plain := fun _ => inferInstanceAs (Decidable (_ ∧ _ ∧ _))

/-- The text between the quotes of a string. A numeric escape may be half of a surrogate pair. -/
inductive Quotable : List Char → Prop
  | nil : Quotable []
  | plain {c : Char} {raw : List Char} (hc : Plain c) (h : Quotable raw) : Quotable (c :: raw)
  | letter {e c : Char} {raw : List Char} (he : (e, c) ∈ letterEscapes) (h : Quotable raw) :
    Quotable ('\\' :: e :: raw)
  | numeric {q raw : List Char} {n : Nat} (hq : HexQuad q n) (h : Quotable raw) :
    Quotable ('\\' :: 'u' :: (q ++ raw))

/-- The text between the quotes of a string, with the characters that it stands for. Characters
beyond the first plane are escaped as a pair of surrogates. -/
inductive QuotedText : (raw content : List Char) → Prop
  | nil : QuotedText [] []
  | plain {c : Char} {raw content : List Char} (hc : Plain c) (h : QuotedText raw content) :
    QuotedText (c :: raw) (c :: content)
  | letter {e c : Char} {raw content : List Char} (he : (e, c) ∈ letterEscapes)
    (h : QuotedText raw content) : QuotedText ('\\' :: e :: raw) (c :: content)
  | numeric {c : Char} {q raw content : List Char} (hq : HexQuad q c.toNat)
    (h : QuotedText raw content) : QuotedText ('\\' :: 'u' :: (q ++ raw)) (c :: content)
  | pair {c : Char} {q q' raw content : List Char} (hc : 0x10000 ≤ c.toNat)
    (hhigh : HexQuad q (0xD800 + (c.toNat - 0x10000) / 0x400))
    (hlow : HexQuad q' (0xDC00 + (c.toNat - 0x10000) % 0x400)) (h : QuotedText raw content) :
    QuotedText ('\\' :: 'u' :: (q ++ '\\' :: 'u' :: (q' ++ raw))) (c :: content)

def words : List (List Char) :=
  [['n', 'u', 'l', 'l'], ['t', 'r', 'u', 'e'], ['f', 'a', 'l', 's', 'e']]

def Frame.opener : Frame → Char
  | .list => '['
  | .object => '{'

/-- The parts that a text is made of. -/
inductive Form where
  | value
  /-- A value with space around it. -/
  | element
  /-- What stands between two commas of a list or an object. -/
  | item (f : Frame)
  /-- What stands between the brackets of a list or an object that is not empty. -/
  | items (f : Frame)

/-- The text is well-formed as a part of the given form. -/
inductive HasForm : Form → List Char → Prop
  | word {cs : List Char} (h : cs ∈ words) : HasForm .value cs
  | positive {cs : List Char} (h : Magnitude cs) : HasForm .value cs
  | negative {cs : List Char} (h : Magnitude cs) : HasForm .value ('-' :: cs)
  | quoted {raw : List Char} (h : Quotable raw) : HasForm .value ('"' :: (raw ++ ['"']))
  | empty {ws : List Char} (f : Frame) (h : Space ws) :
    HasForm .value (f.opener :: (ws ++ [f.closer]))
  | bracketed {f : Frame} {cs : List Char} (h : HasForm (.items f) cs) :
    HasForm .value (f.opener :: (cs ++ [f.closer]))
  | element {front cs back : List Char} (hfront : Space front) (h : HasForm .value cs)
    (hback : Space back) : HasForm .element (front ++ cs ++ back)
  | listItem {cs : List Char} (h : HasForm .element cs) : HasForm (.item .list) cs
  | objectItem {front raw back cs : List Char} (hfront : Space front) (hkey : Quotable raw)
    (hback : Space back) (h : HasForm .element cs) :
    HasForm (.item .object) (front ++ '"' :: (raw ++ '"' :: (back ++ ':' :: cs)))
  | one {f : Frame} {cs : List Char} (h : HasForm (.item f) cs) : HasForm (.items f) cs
  | more {f : Frame} {cs ds : List Char} (h : HasForm (.item f) cs) (hs : HasForm (.items f) ds) :
    HasForm (.items f) (cs ++ ',' :: ds)

/-! ### Space -/

theorem space_nil : Space [] := nofun

theorem isSpace_iff {c : Char} : isSpace c = true ↔ c ∈ [' ', '\n', '\t', '\r'] := by
  simp [isSpace, or_assoc]

theorem skipSpace_append {ws : List Char} (h : Space ws) (cs : List Char) :
    skipSpace (ws ++ cs) = skipSpace cs :=
  List.dropWhile_append_of_pos fun c hc => isSpace_iff.mpr (h c hc)

theorem skipSpace_cons {c : Char} (h : isSpace c = false) (cs : List Char) :
    skipSpace (c :: cs) = c :: cs :=
  List.dropWhile_cons_of_neg (by rw [h]; nofun)

/-! ### Numbers -/

/-- Nothing of a number follows. -/
def Stops (rest : List Char) : Prop :=
  ∀ c, rest.head? = some c → isDigit c = false ∧ c ≠ '.' ∧ c ≠ 'e' ∧ c ≠ 'E'

theorem stops_cons {c : Char} (h : isSpace c = true ∨ c ∈ [',', ']', '}']) (cs : List Char) :
    Stops (c :: cs) := by
  intro c' hc'
  cases hc'
  rw [isSpace_iff] at h
  simp only [List.mem_cons, List.not_mem_nil, or_false] at h
  rcases h with (rfl | rfl | rfl | rfl) | (rfl | rfl | rfl) <;> decide

theorem Stops.append {ws rest : List Char} (hws : Space ws) (h : Stops rest) :
    Stops (ws ++ rest) := by
  cases ws with
  | nil => exact h
  | cons c ws => exact stops_cons (.inl (isSpace_iff.mpr (hws c List.mem_cons_self))) _

theorem isSpace_of_isDigit {c : Char} (h : isDigit c = true) : isSpace c = false := by
  cases hspace : isSpace c with
  | false => rfl
  | true =>
    rw [isSpace_iff] at hspace
    simp only [List.mem_cons, List.not_mem_nil, or_false] at hspace
    rcases hspace with rfl | rfl | rfl | rfl <;> cases h

theorem startsWithDigit_eq_false {rest : List Char}
    (h : ∀ c, rest.head? = some c → isDigit c = false) : startsWithDigit rest = false := by
  cases rest with
  | nil => rfl
  | cons c rest => exact h c rfl

namespace Digits

variable {ds : List Char} (h : Digits ds)

include h

theorem startsWithDigit_append (rest : List Char) : startsWithDigit (ds ++ rest) = true := by
  cases ds with
  | nil => exact absurd rfl h.1
  | cons d ds => exact h.2 d List.mem_cons_self

theorem takeWhile_append {rest : List Char} (hrest : startsWithDigit rest = false) :
    (ds ++ rest).takeWhile isDigit = ds := by
  rw [List.takeWhile_append_of_pos h.2]
  cases rest with
  | nil => rw [List.takeWhile_nil, List.append_nil]
  | cons c rest =>
    change isDigit c = false at hrest
    rw [List.takeWhile_cons_of_neg (by rw [hrest]; nofun), List.append_nil]

theorem dropWhile_append {rest : List Char} (hrest : startsWithDigit rest = false) :
    (ds ++ rest).dropWhile isDigit = rest := by
  rw [List.dropWhile_append_of_pos h.2]
  cases rest with
  | nil => rfl
  | cons c rest =>
    change isDigit c = false at hrest
    exact List.dropWhile_cons_of_neg (by rw [hrest]; nofun)

end Digits

theorem behindSign_append {sign ds : List Char} (hsign : sign = [] ∨ sign = ['+'] ∨ sign = ['-'])
    (hdigits : Digits ds) (rest : List Char) : behindSign (sign ++ ds ++ rest) = ds ++ rest := by
  rcases hsign with rfl | rfl | rfl
  · cases ds with
    | nil => exact absurd rfl hdigits.1
    | cons d ds =>
      refine if_neg ?_
      rintro (rfl | rfl)
      · cases hdigits.2 '+' List.mem_cons_self
      · cases hdigits.2 '-' List.mem_cons_self
  · rfl
  · rfl

theorem skipExponent_append {exponent rest : List Char} (h : Exponent exponent)
    (hrest : Stops rest) : skipExponent (exponent ++ rest) = .ok rest := by
  have hdigit := startsWithDigit_eq_false fun c hc => (hrest c hc).1
  cases h with
  | none =>
    cases rest with
    | nil => rfl
    | cons c rest =>
      obtain ⟨-, -, he, hE⟩ := hrest c rfl
      exact if_neg (not_or.mpr ⟨he, hE⟩)
  | @digits e sign ds he hsign hdigits =>
    rw [List.cons_append, skipExponent, if_pos he, behindSign_append hsign hdigits,
      if_pos (hdigits.startsWithDigit_append rest), hdigits.dropWhile_append hdigit]

/-- An exponent starts neither with a digit nor with a point. -/
theorem head_of_exponent {exponent rest : List Char} (h : Exponent exponent) (hrest : Stops rest) :
    ∀ c, (exponent ++ rest).head? = some c → isDigit c = false ∧ c ≠ '.' := by
  intro c hc
  cases h with
  | none =>
    obtain ⟨hdigit, hpoint, -⟩ := hrest c hc
    exact ⟨hdigit, hpoint⟩
  | digits he hsign hdigits =>
    cases hc
    rcases he with rfl | rfl <;> decide

theorem skipFraction_append {fraction exponent rest : List Char} (hfraction : Fraction fraction)
    (hexponent : Exponent exponent) (hrest : Stops rest) :
    skipFraction (fraction ++ (exponent ++ rest)) = .ok rest := by
  have hhead := head_of_exponent hexponent hrest
  have hskip := skipExponent_append hexponent hrest
  cases hfraction with
  | none =>
    rw [List.nil_append]
    generalize exponent ++ rest = cs at hhead hskip ⊢
    cases cs with
    | nil => exact hskip
    | cons c cs => exact (if_neg (hhead c rfl).2).trans hskip
  | digits hdigits =>
    rw [List.cons_append, skipFraction, if_pos rfl, if_pos (hdigits.startsWithDigit_append _),
      hdigits.dropWhile_append (startsWithDigit_eq_false fun c hc => (hhead c hc).1), hskip]

theorem head_of_fraction {fraction exponent rest : List Char} (hfraction : Fraction fraction)
    (hexponent : Exponent exponent) (hrest : Stops rest) :
    startsWithDigit (fraction ++ (exponent ++ rest)) = false := by
  refine startsWithDigit_eq_false fun c hc => ?_
  cases hfraction with
  | none => exact (head_of_exponent hexponent hrest c hc).1
  | digits hdigits =>
    cases hc
    rfl

theorem skipMagnitude_append {cs rest : List Char} (h : Magnitude cs) (hrest : Stops rest) :
    skipMagnitude (cs ++ rest) = .ok rest := by
  obtain ⟨hint, hfraction, hexponent⟩ := h
  have hdigit := head_of_fraction hfraction hexponent hrest
  have hskip := skipFraction_append hfraction hexponent hrest
  rw [List.append_assoc, List.append_assoc]
  cases hint with
  | zero =>
    rw [List.singleton_append, skipMagnitude, if_pos rfl, hdigit]
    exact hskip
  | @digits d ds hd hdigits =>
    have hdrop := hdigits.dropWhile_append hdigit
    rw [List.cons_append, List.dropWhile_cons_of_pos (hdigits.2 d List.mem_cons_self)] at hdrop
    rw [List.cons_append, skipMagnitude, if_neg hd, if_pos (hdigits.2 d List.mem_cons_self), hdrop,
      hskip]

theorem appendDigits_eq {significand n : Nat} {ds : List Char}
    (h : Text.digitsFrom? significand ds = some n) (hn : n ≤ Text.maxWord64) :
    appendDigits significand ds = (n, []) := by
  induction ds generalizing significand with
  | nil =>
    cases h
    rfl
  | cons d ds ih =>
    rw [Text.digitsFrom?, Text.digitValue?_eq] at h
    split at h
    · cases h
    · rename_i x hx
      split at hx
      · cases hx
        have hle := Text.le_digitsFrom? h
        have hnext : significand * 10 + digitValue d = 10 * significand + (d.toNat - 48) := by
          rw [Nat.mul_comm]
          rfl
        rw [appendDigits, hnext, if_pos (Nat.le_trans hle hn)]
        exact ih h
      · cases hx

/-- A whole number that fits into a word is read as it is. -/
theorem readFraction_of_stops {rest : List Char} (hrest : Stops rest) (n : Nat) :
    readFraction n 0 rest = .ok (.natural n, rest) := by
  cases rest with
  | nil => rfl
  | cons c rest =>
    obtain ⟨-, hpoint, he, hE⟩ := hrest c rfl
    rw [readFraction, if_neg hpoint, if_neg (not_or.mpr ⟨he, hE⟩), if_pos rfl]

theorem readMagnitude_append {ds rest : List Char} {n : Nat} (h : Integer ds n)
    (hn : n ≤ Text.maxWord64) (hrest : Stops rest) :
    readMagnitude (ds ++ rest) = .ok (.natural n, rest) := by
  have hdigit := startsWithDigit_eq_false fun c hc => (hrest c hc).1
  cases h with
  | zero =>
    rw [List.singleton_append, readMagnitude, if_pos rfl, hdigit]
    exact readFraction_of_stops hrest 0
  | @digits d ds hd hdigits =>
    have hvalue : Text.digitsFrom? 0 (d :: ds) = some (Text.digitsValue (d :: ds)) :=
      Text.digitsFrom?_eq_some_iff.mpr ⟨hdigits.2, rfl⟩
    have htake := hdigits.takeWhile_append hdigit
    have hdrop := hdigits.dropWhile_append hdigit
    rw [List.cons_append] at htake hdrop
    rw [List.cons_append, readMagnitude, if_neg hd, if_pos (hdigits.2 d List.mem_cons_self), htake,
      hdrop, appendDigits_eq hvalue hn]
    exact readFraction_of_stops hrest _

theorem Integer.digits_of {ds : List Char} {n : Nat} (h : Integer ds n) : Digits ds := by
  cases h with
  | zero => exact ⟨nofun, fun c hc => by rw [List.mem_singleton.mp hc]; rfl⟩
  | digits hd hdigits => exact hdigits

theorem readNatural_append {front ds rest : List Char} {n limit : Nat} (hfront : Space front)
    (h : Integer ds n) (hn : n ≤ limit) (hlimit : limit ≤ Text.maxWord64) (hrest : Stops rest) :
    readNatural limit (front ++ (ds ++ rest)) = .ok (n, rest) := by
  have hread := readMagnitude_append h (Nat.le_trans hn hlimit) hrest
  have hdigits := h.digits_of
  cases ds with
  | nil => exact absurd rfl hdigits.1
  | cons d ds =>
    have hd := hdigits.2 d List.mem_cons_self
    have hspace := isSpace_of_isDigit hd
    have hnumber : readNumber (d :: (ds ++ rest)) = .ok (.natural n, rest) := by
      unfold readNumber
      split
      · rename_i heq
        cases heq
        cases hd
      · exact hread
    rw [readNatural, skipSpace_append hfront, List.cons_append, skipSpace_cons hspace]
    dsimp only
    rw [if_pos (.inr hd), hnumber]
    exact if_pos hn

/-! ### Quoted texts -/

theorem HexDigit.hexValue?_eq {c : Char} {n : Nat} (h : HexDigit c n) : hexValue? c = some n := by
  cases h with
  | lower hd => exact (by decide : ∀ d < 16, hexValue? d.digitChar = some d) n hd
  | upper hd => exact (by decide : ∀ d < 16, hexValue? d.digitChar.toUpper = some d) n hd

theorem hexQuad_append {q : List Char} {n : Nat} (h : HexQuad q n) (rest : List Char) :
    hexQuad (q ++ rest) = .ok (n, rest) := by
  obtain ⟨ha, hb, hc, hd⟩ := h
  simp only [List.cons_append, List.nil_append, hexQuad, ha.hexValue?_eq, hb.hexValue?_eq,
    hc.hexValue?_eq, hd.hexValue?_eq]

theorem letterEscape?_of_mem {e c : Char} (h : (e, c) ∈ letterEscapes) :
    e ≠ 'u' ∧ letterEscape? e = some c :=
  (by decide : ∀ p ∈ letterEscapes, p.1 ≠ 'u' ∧ letterEscape? p.1 = some p.2) _ h

theorem readEscape_letter {e c : Char} (h : (e, c) ∈ letterEscapes) (rest : List Char) :
    readEscape (e :: rest) = .ok (c, rest) := by
  obtain ⟨hu, hc⟩ := letterEscape?_of_mem h
  rw [readEscape, if_neg hu, hc]

theorem readEscape_numeric {c : Char} {q : List Char} (h : HexQuad q c.toNat) (rest : List Char) :
    readEscape ('u' :: (q ++ rest)) = .ok (c, rest) := by
  have hvalid : c.toNat < 0xD800 ∨ 0xDFFF < c.toNat ∧ c.toNat < 0x110000 := c.valid
  have hlow : isLowSurrogate c.toNat = false := by
    simp only [isLowSurrogate, Bool.and_eq_false_iff, decide_eq_false_iff_not]
    omega
  have hhigh : isHighSurrogate c.toNat = false := by
    simp only [isHighSurrogate, Bool.and_eq_false_iff, decide_eq_false_iff_not]
    omega
  simp only [readEscape, readNumericEscape, hexQuad_append h, hlow, hhigh, if_true,
    Bool.false_eq_true, if_false, Char.ofNat_toNat]

theorem readEscape_pair {c : Char} {q q' : List Char} (hc : 0x10000 ≤ c.toNat)
    (hhigh : HexQuad q (0xD800 + (c.toNat - 0x10000) / 0x400))
    (hlow : HexQuad q' (0xDC00 + (c.toNat - 0x10000) % 0x400)) (rest : List Char) :
    readEscape ('u' :: (q ++ '\\' :: 'u' :: (q' ++ rest))) = .ok (c, rest) := by
  have hvalid : c.toNat < 0xD800 ∨ 0xDFFF < c.toNat ∧ c.toNat < 0x110000 := c.valid
  generalize hn : 0xD800 + (c.toNat - 0x10000) / 0x400 = n at hhigh
  generalize hm : 0xDC00 + (c.toNat - 0x10000) % 0x400 = m at hlow
  have hnlow : isLowSurrogate n = false := by
    simp only [isLowSurrogate, Bool.and_eq_false_iff, decide_eq_false_iff_not]
    omega
  have hnhigh : isHighSurrogate n = true := by
    simp only [isHighSurrogate, Bool.and_eq_true, decide_eq_true_eq]
    omega
  have hmlow : isLowSurrogate m = true := by
    simp only [isLowSurrogate, Bool.and_eq_true, decide_eq_true_eq]
    omega
  have hvalue : 0x10000 + (n - 0xD800) * 0x400 + (m - 0xDC00) = c.toNat := by omega
  simp only [readEscape, readNumericEscape, hexQuad_append hhigh, hexQuad_append hlow, hnlow,
    hnhigh, hmlow, hvalue, if_true, Bool.false_eq_true, if_false, Char.ofNat_toNat]

theorem readQuotedOn_escape {r r' : List Char} {x : Char} (h : readEscape r = .ok (x, r'))
    (front : List Char) : readQuotedOn front ('\\' :: r) = readQuotedOn (x :: front) r' := by
  rw [readQuotedOn, if_neg (by decide), if_pos rfl]
  split <;> rename_i h' <;> rw [h] at h' <;> cases h'
  rfl

theorem Plain.isControl_eq_false {c : Char} (h : Plain c) : isControl c = false :=
  decide_eq_false (Nat.not_lt.mpr h.2.2)

/-- A quoted text is read to its closing quote. -/
theorem readQuotedOn_append {raw content : List Char} (h : QuotedText raw content)
    (front rest : List Char) :
    readQuotedOn front (raw ++ '"' :: rest) = .ok (front.reverse ++ content, rest) := by
  induction h generalizing front with
  | nil => rw [List.nil_append, readQuotedOn, if_pos rfl, List.append_nil]
  | @plain c raw content hc h ih =>
    rw [List.cons_append, readQuotedOn, if_neg hc.1, if_neg hc.2.1, hc.isControl_eq_false,
      if_neg Bool.false_ne_true, ih, List.reverse_cons, List.append_assoc, List.singleton_append]
  | @letter e c raw content he h ih =>
    rw [List.cons_append, List.cons_append, readQuotedOn_escape (readEscape_letter he _), ih,
      List.reverse_cons, List.append_assoc, List.singleton_append]
  | @numeric c q raw content hq h ih =>
    rw [List.cons_append, List.cons_append, List.append_assoc,
      readQuotedOn_escape (readEscape_numeric hq _), ih, List.reverse_cons, List.append_assoc,
      List.singleton_append]
  | @pair c q q' raw content hc hhigh hlow h ih =>
    rw [List.cons_append, List.cons_append, List.append_assoc, List.cons_append,
      List.cons_append, List.append_assoc, readQuotedOn_escape (readEscape_pair hc hhigh hlow _),
      ih, List.reverse_cons, List.append_assoc, List.singleton_append]

theorem skipQuoted_escape {r r' : List Char} (h : skipEscape r = .ok r') :
    skipQuoted ('\\' :: r) = skipQuoted r' := by
  rw [skipQuoted, if_neg (by decide), if_pos rfl]
  split <;> rename_i h' <;> rw [h] at h' <;> cases h'
  rfl

theorem skipQuoted_append {raw : List Char} (h : Quotable raw) (rest : List Char) :
    skipQuoted (raw ++ '"' :: rest) = .ok rest := by
  induction h with
  | nil => rw [List.nil_append, skipQuoted, if_pos rfl]
  | @plain c raw hc h ih =>
    rw [List.cons_append, skipQuoted, if_neg hc.1, if_neg hc.2.1, hc.isControl_eq_false,
      if_neg Bool.false_ne_true, ih]
  | @letter e c raw he h ih =>
    obtain ⟨hu, hc⟩ := letterEscape?_of_mem he
    have hescape : skipEscape (e :: (raw ++ '"' :: rest)) = .ok (raw ++ '"' :: rest) := by
      rw [skipEscape, if_neg hu, hc, Option.isSome_some, if_pos rfl]
    rw [List.cons_append, List.cons_append, skipQuoted_escape hescape, ih]
  | @numeric q raw n hq h ih =>
    have hescape : skipEscape ('u' :: (q ++ (raw ++ '"' :: rest))) = .ok (raw ++ '"' :: rest) := by
      rw [skipEscape, if_pos rfl, hexQuad_append hq]
    rw [List.cons_append, List.cons_append, List.append_assoc, skipQuoted_escape hescape, ih]

end Json
end RoutingDump
