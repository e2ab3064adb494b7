import RoutingDump.Proofs.Configuration.Layers
import RoutingDump.Proofs.Json.Skipping

/-!
# Files read back

The text of an object is put here by the grammar alone: members in any order with space between all
tokens, of which some set a field and the others have any key and any value. A file with such a text
overrides the defaults by the fields that are set in it and by nothing else. What a configuration is
written as is such a text, so it reads back.
-/

namespace RoutingDump

open Json (Space QuotedText Integer HasForm Stops skipSpace)
open Text (Utf8.encode)

namespace Configuration

/-! ### Texts of objects -/

/-- A member of an object with the field that it sets, if it sets any. Its key may be written with
escapes. -/
inductive MemberText : List Char → Option (Setting × Nat) → Prop
  | field {raw back front ds : List Char} {s : Setting} {n : Nat}
    (hkey : QuotedText raw s.key.toList) (hback : Space back) (hfront : Space front)
    (hvalue : Integer ds n) (hn : n ≤ s.limit) :
    MemberText ('"' :: (raw ++ '"' :: (back ++ ':' :: (front ++ ds)))) (some (s, n))
  | other {raw key back front cs : List Char} (hkey : QuotedText raw key)
    (hother : ∀ s : Setting, key ≠ s.key.toList) (hback : Space back) (hfront : Space front)
    (hvalue : HasForm .value cs) :
    MemberText ('"' :: (raw ++ '"' :: (back ++ ':' :: (front ++ cs)))) none

/-- One or more members with commas between them, and the fields that they set in this order. -/
inductive MembersText : List Char → List (Setting × Nat) → Prop
  | one {front cs back : List Char} {o : Option (Setting × Nat)} (hfront : Space front)
    (h : MemberText cs o) (hback : Space back) : MembersText (front ++ (cs ++ back)) o.toList
  | more {front cs back ds : List Char} {o : Option (Setting × Nat)} {fs : List (Setting × Nat)}
    (hfront : Space front) (h : MemberText cs o) (hback : Space back) (hs : MembersText ds fs) :
    MembersText (front ++ (cs ++ (back ++ ',' :: ds))) (o.toList ++ fs)

/-- The text of an object, and the fields that its members set. -/
inductive ObjectText : List Char → List (Setting × Nat) → Prop
  | empty {front ws back : List Char} (hfront : Space front) (hws : Space ws)
    (hback : Space back) : ObjectText (front ++ '{' :: (ws ++ '}' :: back)) []
  | members {front cs back : List Char} {fs : List (Setting × Nat)} (hfront : Space front)
    (h : MembersText cs fs) (hback : Space back) :
    ObjectText (front ++ '{' :: (cs ++ '}' :: back)) fs

/-! ### Reading the text of an object -/

/-- The text goes on with `cs` where the next member is looked for: as it is for the first one, and
behind a comma for the others. -/
inductive Ahead (cs : List Char) : (first : Bool) → List Char → Prop
  | first : Ahead cs true cs
  | later {back : List Char} (hback : Space back) : Ahead cs false (back ++ ',' :: cs)

theorem nextMember_of_ahead {first : Bool} {front cs text : List Char} (hfront : Space front)
    (h : Ahead (front ++ '"' :: cs) first text) : nextMember first text = .ok (.key cs) := by
  have hquote : skipSpace (front ++ '"' :: cs) = '"' :: cs := by
    rw [Json.skipSpace_append hfront, Json.skipSpace_cons rfl]
  cases h with
  | first =>
    rw [nextMember, hquote]
    rfl
  | @later back hback =>
    rw [nextMember, Json.skipSpace_append hback, Json.skipSpace_cons rfl]
    dsimp only
    rw [if_neg (by decide), if_neg (by decide), if_pos rfl, hquote]
    rfl

theorem nextMember_of_brace {ws : List Char} (hws : Space ws) (first : Bool) (cs : List Char) :
    nextMember first (ws ++ '}' :: cs) = .ok (.close cs) := by
  rw [nextMember, Json.skipSpace_append hws, Json.skipSpace_cons rfl]
  rfl

theorem Setting.limit_le (s : Setting) : s.limit ≤ Text.maxWord64 := by cases s <;> decide

theorem MemberText.members {cs : List Char} {o : Option (Setting × Nat)} (h : MemberText cs o)
    {first : Bool} {front text rest after : List Char} {fs : List (Setting × Nat)}
    (hfront : Space front) (hahead : Ahead (front ++ (cs ++ rest)) first text) (hrest : Stops rest)
    (hlater : Members false rest fs after) : Members first text (o.toList ++ fs) after := by
  cases h with
  | field hkey hback hgap hvalue hn =>
    simp only [List.cons_append, List.append_assoc] at hahead
    exact .field (nextMember_of_ahead hfront hahead) (Json.readQuotedOn_append hkey [] _)
      (Json.skipColon_append hback _)
      (Json.readNatural_append hgap hvalue hn (Setting.limit_le _) hrest) hlater
  | other hkey hother hback hgap hvalue =>
    simp only [List.cons_append, List.append_assoc] at hahead
    exact .other (nextMember_of_ahead hfront hahead) (Json.readQuotedOn_append hkey [] _) hother
      (Json.skipColon_append hback _) (Json.skipValue_append hgap hvalue hrest) hlater

theorem MembersText.members {cs : List Char} {fs : List (Setting × Nat)} (h : MembersText cs fs)
    {first : Bool} {text after : List Char} (hahead : Ahead (cs ++ '}' :: after) first text) :
    Members first text fs after := by
  induction h generalizing first text with
  | @one front cs back o hfront h hback =>
    rw [List.append_assoc, List.append_assoc] at hahead
    have hstops : Stops (back ++ '}' :: after) :=
      Stops.append hback (Json.stops_cons (.inr (by decide)) after)
    have hmembers := h.members hfront hahead hstops (.close (nextMember_of_brace hback false after))
    rwa [List.append_nil] at hmembers
  | @more front cs back ds o fs hfront h hback hs ih =>
    rw [List.append_assoc, List.append_assoc, List.append_assoc, List.cons_append] at hahead
    have hstops : Stops (back ++ ',' :: (ds ++ '}' :: after)) :=
      Stops.append hback (Json.stops_cons (.inr (by decide)) _)
    exact h.members hfront hahead hstops (ih (.later hback))

theorem ObjectText.written {text : List Char} {fs : List (Setting × Nat)} (h : ObjectText text fs)
    (honce : (fs.map Prod.fst).Nodup) : Written text fs := by
  have hopen {front r : List Char} (hfront : Space front) :
      skipSpace (front ++ '{' :: r) = '{' :: r := by
    rw [Json.skipSpace_append hfront, Json.skipSpace_cons rfl]
  have hend {back : List Char} (hback : Space back) : skipSpace back = [] :=
    List.dropWhile_eq_nil_iff.mpr fun c hc => Json.isSpace_iff.mpr (hback c hc)
  cases h with
  | empty hfront hws hback =>
    exact .object (hopen hfront) (.close (nextMember_of_brace hws true _)) honce (hend hback)
  | members hfront h hback => exact .object (hopen hfront) (h.members .first) honce (hend hback)

/-! ### The text of a configuration -/

theorem head?_decimal {n : Nat} (hn : n ≠ 0) : (Text.decimal n).head? ≠ some '0' := by
  induction n using Nat.strongRecOn with
  | ind n ih =>
    rw [Text.decimal, Nat.toDigits_eq_if (by decide)]
    by_cases h : n < 10
    · rw [if_pos h]
      have hdigit := (by decide : ∀ d < 10, d ≠ 0 → d.digitChar ≠ '0') n h hn
      exact fun hhead => hdigit (Option.some.inj hhead)
    · have hfront := ih (n / 10) (by omega) (by omega)
      rw [if_neg h]
      exact (List.head?_append_of_ne_nil _ (Text.decimal_ne_nil (n / 10))) ▸ hfront

theorem integer_decimal (n : Nat) : Integer (Text.decimal n) n := by
  by_cases hn : n = 0
  · rw [hn]
    exact .zero
  · have hhead := head?_decimal hn
    have hvalue := Text.digitsValue_decimal n
    have hdigits : Json.Digits (Text.decimal n) :=
      ⟨Text.decimal_ne_nil n, fun c hc => Text.isDigit_of_mem_decimal hc⟩
    cases hds : Text.decimal n with
    | nil => exact absurd hds (Text.decimal_ne_nil n)
    | cons d ds =>
      rw [hds] at hhead hvalue hdigits
      have hinteger := Integer.digits (fun hd : d = '0' => hhead (congrArg some hd)) hdigits
      rwa [hvalue] at hinteger

theorem quotedText_plain {cs : List Char} (h : cs.all (Json.Plain ·) = true) :
    QuotedText cs cs := by
  induction cs with
  | nil => exact .nil
  | cons c cs ih =>
    rw [List.all_cons, Bool.and_eq_true, decide_eq_true_iff] at h
    exact .plain h.1 (ih h.2)

theorem Setting.key_plain (s : Setting) : QuotedText s.key.toList s.key.toList :=
  quotedText_plain (by cases s <;> decide)

theorem get_le_limit (c : Configuration) (s : Setting) : c.get s ≤ s.limit := by
  cases s with
  | maxOpenAttempts => exact Nat.le_of_lt_succ c.maxOpenAttempts.toNat_lt
  | openRetryWaitMs => exact Nat.le_of_lt_succ c.openRetryWaitMs.toNat_lt
  | pollIntervalMs => exact Nat.le_of_lt_succ c.pollIntervalMs.toNat_lt

/-- All fields of a configuration. -/
def fields (c : Configuration) : List (Setting × Nat) := Setting.all.map fun s => (s, c.get s)

theorem lookup_fields (c : Configuration) (s : Setting) :
    c.fields.lookup s = some (c.get s) := by
  cases s <;> rfl

theorem memberText_field (c : Configuration) (s : Setting) :
    MemberText ("\"" ++ s.key ++ "\":" ++ toString (c.get s)).toList (some (s, c.get s)) := by
  have h : MemberText _ (some (s, c.get s)) :=
    .field (Setting.key_plain s) Json.space_nil Json.space_nil (integer_decimal (c.get s))
      (c.get_le_limit s)
  have hnumber : (toString (c.get s)).toList = Text.decimal (c.get s) := String.toList_ofList
  rw [String.toList_append, String.toList_append, String.toList_append, hnumber]
  simpa using h

theorem objectText_toJson (c : Configuration) : ObjectText c.toJson.toList c.fields := by
  have hlast := MembersText.one Json.space_nil (memberText_field c .pollIntervalMs) Json.space_nil
  have hwait := MembersText.more Json.space_nil (memberText_field c .openRetryWaitMs)
    Json.space_nil hlast
  have hall := MembersText.more Json.space_nil (memberText_field c .maxOpenAttempts)
    Json.space_nil hwait
  have hobject := ObjectText.members Json.space_nil hall Json.space_nil
  have htext (a b d : String) : ("\x7b" ++ String.intercalate "," [a, b, d] ++ "\x7d").toList =
      '{' :: (a.toList ++ ',' :: (b.toList ++ ',' :: d.toList) ++ ['}']) := by
    show ("\x7b" ++ (a ++ "," ++ b ++ "," ++ d) ++ "\x7d").toList = _
    simp
  simp only [List.nil_append, List.append_nil] at hobject
  exact htext _ _ _ ▸ hobject

/-- What a configuration is written as reads back, and more: whatever the text of an object looks
like, the fields that are set in it go on top of the defaults, each at most once. -/
theorem ofFile_object (t : FileTree) (path : String) :
    (∀ c : Configuration, c.maxOpenAttempts ≠ 0 → t.read path = .ok (Utf8.encode c.toJson.toList) →
        ofFile t path = .ok c) ∧
      ∀ text fs, ObjectText text fs → (fs.map Prod.fst).Nodup →
        fs.lookup .maxOpenAttempts ≠ some 0 → t.read path = .ok (Utf8.encode text) →
        ∃ c, ofFile t path = .ok c ∧
          ∀ s, c.get s = (fs.lookup s).getD (({} : Configuration).get s) := by
  have hobject : ∀ text fs, ObjectText text fs → (fs.map Prod.fst).Nodup →
      fs.lookup .maxOpenAttempts ≠ some 0 → t.read path = .ok (Utf8.encode text) →
      ∃ c, ofFile t path = .ok c ∧
        ∀ s, c.get s = (fs.lookup s).getD (({} : Configuration).get s) := by
    intro text fs h honce hattempts hread
    have hwritten := h.written honce
    refine ⟨({} : Configuration).overlay (.ofFields fs), ?_, get_overlay {} hwritten.inRange⟩
    rw [ofFile, hread]
    dsimp only
    rw [ofBytes_encode hwritten, if_neg hattempts]
  refine ⟨fun c hc hread => ?_, hobject⟩
  have hattempts : c.fields.lookup .maxOpenAttempts ≠ some 0 := by
    rw [lookup_fields]
    exact fun hzero => hc (UInt32.toNat_inj.mp (Option.some.inj hzero))
  obtain ⟨c', hfile, hget⟩ :=
    hobject _ _ (objectText_toJson c) (show Setting.all.Nodup by decide) hattempts hread
  have hsame : c' = c := eq_of_get fun s => by
    rw [hget, lookup_fields]
    rfl
  rw [hfile, hsame]

/-- A list in which half a surrogate pair and a number beyond all bounds stand, and then a key
written with an escape. -/
theorem ofFile_object_nested :
    let text := "\x7b\"log\": [\x7b\"a\":\"\\ud800\"\x7d, -1e999],\n\"max\\u004fpenAttempts\":3\x7d"
    let t := (FileTree.empty 0).add 0 "reader.json" (.file (Utf8.encode text.toList).toArray 0)
    ∃ c, ofFile t "reader.json" = .ok c ∧
      ∀ s, c.get s = ([(Setting.maxOpenAttempts, 3)].lookup s).getD
        (({} : Configuration).get s) := by
  intro text t
  have none := Json.space_nil
  have blank : Space [' '] := List.forall_mem_singleton.mpr (by decide)
  have newline : Space ['\n'] := List.forall_mem_singleton.mpr (by decide)
  have digits (ds : List Char) (h : ds ≠ [] ∧ ds.all Json.isDigit = true) : Json.Digits ds :=
    ⟨h.1, List.all_eq_true.mp h.2⟩
  have plain (cs : List Char) (h : cs.all (Json.Plain ·) = true) : QuotedText cs cs :=
    quotedText_plain h
  have hhalf : Json.Quotable "\\ud800".toList :=
    .numeric (.digits (.lower (by decide : 13 < 16)) (.lower (by decide : 8 < 16))
      (.lower (by decide : 0 < 16)) (.lower (by decide : 0 < 16))) .nil
  have hobject : HasForm .value "\x7b\"a\":\"\\ud800\"\x7d".toList :=
    .bracketed (.one (.objectItem none (.plain (by decide : Json.Plain 'a') .nil)
      none (.element none (.quoted hhalf) none)))
  have hnumber : HasForm .value "-1e999".toList :=
    .negative (.parts (.digits (by decide : '1' ≠ '0') (digits ['1'] (by decide))) .none
      (.digits (.inl rfl) (.inl rfl) (digits "999".toList (by decide))))
  have hlist : HasForm .value "[\x7b\"a\":\"\\ud800\"\x7d, -1e999]".toList :=
    .bracketed (.more (.listItem (.element none hobject none))
      (.one (.listItem (.element blank hnumber none))))
  have hother : MemberText "\"log\": [\x7b\"a\":\"\\ud800\"\x7d, -1e999]".toList Option.none :=
    .other (plain "log".toList (by decide)) (fun s => by cases s <;> decide) none blank hlist
  have hkey : QuotedText "max\\u004fpenAttempts".toList Setting.maxOpenAttempts.key.toList :=
    have point : Json.HexQuad "004f".toList 'O'.toNat :=
      .digits (.lower (by decide : 0 < 16)) (.lower (by decide : 0 < 16))
        (.lower (by decide : 4 < 16)) (.lower (by decide : 15 < 16))
    .plain (by decide : Json.Plain 'm') (.plain (by decide : Json.Plain 'a')
      (.plain (by decide : Json.Plain 'x')
        (.numeric point (plain "penAttempts".toList (by decide)))))
  have hfield : MemberText "\"max\\u004fpenAttempts\":3".toList (some (.maxOpenAttempts, 3)) :=
    .field hkey none none (.digits (by decide : '3' ≠ '0') (digits ['3'] (by decide))) (by decide)
  exact (ofFile_object t "reader.json").2 _ [(.maxOpenAttempts, 3)]
    (.members none (.more none hother none (.one newline hfield none)) none) (by decide)
    (by decide) (by decide +kernel)

end Configuration
end RoutingDump
