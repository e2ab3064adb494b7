import RoutingDump.Proofs.Json.Grammar

/-!
# Skipping a value

The skipper passes every value to its end, however deep it is nested. It is a machine that keeps
the open brackets in a list, so the induction over a value says of each part what the machine does
with it under any list of open brackets and in front of any text.
-/

namespace RoutingDump
namespace Json

/-! ### The machine from a stand on -/

/-- What is left behind the whole, from a stand on. -/
def goOn : Except Fault (Stand × List Char) → Except Fault (List Char)
  | .error e => .error e
  | .ok (.done, r) => .ok r
  | .ok (.value stack, r) => skipFrom stack r

/-- Skips on behind a value. -/
def skipBehind (stack : List Frame) (cs : List Char) : Except Fault (List Char) :=
  goOn (behindValue stack cs)

/-- Skips on from an item of the bracket `f`. -/
def skipItem (f : Frame) (stack : List Frame) (cs : List Char) : Except Fault (List Char) :=
  match skipKey f cs with
  | .error e => .error e
  | .ok r => skipFrom (f :: stack) r

theorem skipFrom_eq (stack : List Frame) (cs : List Char) :
    skipFrom stack cs = goOn (skipStep stack cs) := by
  rw [skipFrom]
  split <;> rename_i h <;> exact (congrArg goOn h).symm

theorem skipFrom_space {ws : List Char} (h : Space ws) (stack : List Frame) (cs : List Char) :
    skipFrom stack (ws ++ cs) = skipFrom stack cs := by
  rw [skipFrom_eq, skipFrom_eq, skipStep, skipStep, skipSpace_append h]

theorem skipItem_space {ws : List Char} (h : Space ws) (f : Frame) (stack : List Frame)
    (cs : List Char) : skipItem f stack (ws ++ cs) = skipItem f stack cs := by
  cases f with
  | list => exact skipFrom_space h _ cs
  | object => rw [skipItem, skipItem, skipKey, skipKey, skipSpace_append h]

theorem skipBehind_space {ws : List Char} (h : Space ws) (f : Frame) (stack : List Frame)
    (cs : List Char) : skipBehind (f :: stack) (ws ++ cs) = skipBehind (f :: stack) cs := by
  rw [skipBehind, skipBehind, behindValue, behindValue, skipSpace_append h]

theorem Frame.isSpace_opener (f : Frame) : isSpace f.opener = false := by cases f <;> rfl

theorem Frame.isSpace_closer (f : Frame) : isSpace f.closer = false := by cases f <;> rfl

theorem Frame.closer_ne_comma (f : Frame) : f.closer ≠ ',' := by cases f <;> decide

theorem skipBehind_comma (f : Frame) (stack : List Frame) (cs : List Char) :
    skipBehind (f :: stack) (',' :: cs) = skipItem f stack cs := by
  rw [skipBehind, behindValue, skipSpace_cons rfl]
  dsimp only
  rw [if_pos rfl, skipItem]
  cases skipKey f cs <;> rfl

theorem skipBehind_closer (f : Frame) (stack : List Frame) (cs : List Char) :
    skipBehind (f :: stack) (f.closer :: cs) = skipBehind stack cs := by
  rw [skipBehind, behindValue, skipSpace_cons f.isSpace_closer]
  dsimp only
  rw [if_neg f.closer_ne_comma, if_pos rfl, skipBehind]

theorem skipFrom_opener (f : Frame) (stack : List Frame) (cs : List Char) :
    skipFrom stack (f.opener :: cs) = goOn (behindOpening f stack cs) := by
  rw [skipFrom_eq, skipStep, skipSpace_cons f.isSpace_opener]
  cases f <;> rfl

theorem skipFrom_empty {ws : List Char} (h : Space ws) (f : Frame) (stack : List Frame)
    (cs : List Char) :
    skipFrom stack (f.opener :: (ws ++ f.closer :: cs)) = skipBehind stack cs := by
  rw [skipFrom_opener, behindOpening, skipSpace_append h, skipSpace_cons f.isSpace_closer]
  dsimp only
  rw [if_pos rfl, skipBehind]

theorem skipFrom_bracket {ws : List Char} {c : Char} {f : Frame} (h : Space ws)
    (hspace : isSpace c = false) (hc : c ≠ f.closer) (stack : List Frame) (cs : List Char) :
    skipFrom stack (f.opener :: (ws ++ c :: cs)) = skipItem f stack (ws ++ c :: cs) := by
  rw [skipItem_space h, skipFrom_opener, behindOpening, skipSpace_append h, skipSpace_cons hspace]
  dsimp only
  rw [if_neg hc, skipItem]
  cases skipKey f (c :: cs) <;> rfl

theorem skipFrom_scalar {c : Char} {r r' : List Char} (hspace : isSpace c = false)
    (hc : c ≠ '[' ∧ c ≠ '{') (h : skipScalar c r = .ok r') (stack : List Frame) :
    skipFrom stack (c :: r) = skipBehind stack r' := by
  rw [skipFrom_eq, skipStep, skipSpace_cons hspace]
  dsimp only
  rw [if_neg hc.1, if_neg hc.2, h, skipBehind]

theorem skipColon_append {back : List Char} (hback : Space back) (cs : List Char) :
    skipColon (back ++ ':' :: cs) = .ok cs := by
  rw [skipColon, skipSpace_append hback, skipSpace_cons rfl]
  exact if_pos rfl

theorem skipItem_key {raw back : List Char} (hkey : Quotable raw) (hback : Space back)
    (stack : List Frame) (cs : List Char) :
    skipItem .object stack ('"' :: (raw ++ '"' :: (back ++ ':' :: cs))) =
      skipFrom (.object :: stack) cs := by
  rw [skipItem, skipKey, skipSpace_cons rfl]
  dsimp only
  rw [if_pos rfl, skipQuoted_append hkey]
  dsimp only
  rw [skipColon_append hback]

/-! ### Where a part starts -/

theorem Magnitude.head {cs : List Char} (h : Magnitude cs) :
    ∃ d r, cs = d :: r ∧ isDigit d = true := by
  obtain ⟨hint, -, -⟩ := h
  cases hint with
  | zero => exact ⟨'0', _, rfl, rfl⟩
  | digits hd hdigits => exact ⟨_, _, rfl, hdigits.2 _ List.mem_cons_self⟩

/-- A part starts with space at most and then with what closes no bracket. -/
theorem HasForm.head {k : Form} {cs : List Char} (h : HasForm k cs) :
    ∃ ws c r, Space ws ∧ cs = ws ++ c :: r ∧ isSpace c = false ∧ ∀ f : Frame, c ≠ f.closer := by
  have single {c : Char} {r : List Char} (hspace : isSpace c = false)
      (hc : c ≠ ']' ∧ c ≠ '}') : ∃ ws c' r', Space ws ∧ c :: r = ws ++ c' :: r' ∧
        isSpace c' = false ∧ ∀ f : Frame, c' ≠ f.closer :=
    ⟨[], c, r, nofun, rfl, hspace, fun f => match f with
      | .list => hc.1
      | .object => hc.2⟩
  induction h with
  | word h =>
    simp only [words, List.mem_cons, List.not_mem_nil, or_false] at h
    rcases h with rfl | rfl | rfl <;> exact single rfl (by decide)
  | negative | quoted => exact single rfl (by decide)
  | positive h =>
    obtain ⟨d, r, rfl, hd⟩ := h.head
    refine single (isSpace_of_isDigit hd) ⟨?_, ?_⟩ <;> rintro rfl <;> cases hd
  | empty f | @bracketed f => exact single f.isSpace_opener (by cases f <;> decide)
  | @element front cs back hfront h hback ih =>
    obtain ⟨ws, c, r, hws, rfl, hspace, hc⟩ := ih
    refine ⟨front ++ ws, c, r ++ back, ?_, by simp only [List.append_assoc, List.cons_append],
      hspace, hc⟩
    exact fun x hx => (List.mem_append.mp hx).elim (hfront x) (hws x)
  | listItem h ih | one h ih => exact ih
  | @objectItem front raw back cs hfront => exact ⟨front, '"', _, hfront, rfl, rfl, by
      intro f
      cases f <;> decide⟩
  | @more f cs ds h hs ih =>
    obtain ⟨ws, c, r, hws, rfl, hspace, hc⟩ := ih
    exact ⟨ws, c, r ++ ',' :: ds, hws, List.append_assoc _ _ _, hspace, hc⟩

/-! ### Passing a part -/

/-- The machine comes to the end of the part. -/
def Passed (cs : List Char) : Form → Prop
  | .value => ∀ stack rest, Stops rest → skipFrom stack (cs ++ rest) = skipBehind stack rest
  | .element => ∀ f stack rest, Stops rest →
    skipFrom (f :: stack) (cs ++ rest) = skipBehind (f :: stack) rest
  | .item f => ∀ stack rest, Stops rest →
    skipItem f stack (cs ++ rest) = skipBehind (f :: stack) rest
  | .items f => ∀ stack rest, skipItem f stack (cs ++ f.closer :: rest) = skipBehind stack rest

theorem stops_closer (f : Frame) (rest : List Char) : Stops (f.closer :: rest) :=
  stops_cons (.inr (by cases f <;> decide)) rest

theorem passed_word {cs : List Char} (h : cs ∈ words) : Passed cs .value := by
  intro stack rest _
  simp only [words, List.mem_cons, List.not_mem_nil, or_false] at h
  rcases h with rfl | rfl | rfl <;> exact skipFrom_scalar rfl (by decide) rfl stack

theorem passed_positive {cs : List Char} (h : Magnitude cs) : Passed cs .value := by
  intro stack rest hrest
  obtain ⟨d, r, rfl, hd⟩ := h.head
  have hne : ∀ c, isDigit c = false → d ≠ c := by
    rintro c hc rfl
    cases hc.symm.trans hd
  refine skipFrom_scalar (isSpace_of_isDigit hd) ⟨hne '[' rfl, hne '{' rfl⟩ ?_ stack
  rw [skipScalar, if_neg (hne 'n' rfl), if_neg (hne 't' rfl), if_neg (hne 'f' rfl),
    if_neg (hne '-' rfl), if_pos hd]
  exact skipMagnitude_append h hrest

theorem passed_negative {cs : List Char} (h : Magnitude cs) : Passed ('-' :: cs) .value := by
  intro stack rest hrest
  have hskip : skipScalar '-' (cs ++ rest) = .ok rest := skipMagnitude_append h hrest
  exact skipFrom_scalar rfl (by decide) hskip stack

theorem passed_quoted {raw : List Char} (h : Quotable raw) :
    Passed ('"' :: (raw ++ ['"'])) .value := by
  intro stack rest _
  have hskip : skipScalar '"' (raw ++ '"' :: rest) = .ok rest := skipQuoted_append h rest
  rw [List.cons_append, List.append_assoc, List.singleton_append]
  exact skipFrom_scalar rfl (by decide) hskip stack

theorem passed_bracketed {f : Frame} {cs : List Char} (h : HasForm (.items f) cs)
    (hcs : Passed cs (.items f)) : Passed (f.opener :: (cs ++ [f.closer])) .value := by
  intro stack rest _
  have hbehind := hcs stack rest
  obtain ⟨ws, c, r, hws, rfl, hspace, hc⟩ := h.head
  rw [List.append_assoc, List.cons_append] at hbehind
  rw [List.cons_append, List.append_assoc, List.singleton_append, List.append_assoc,
    List.cons_append, skipFrom_bracket hws hspace (hc f), hbehind]

theorem HasForm.passed {k : Form} {cs : List Char} (h : HasForm k cs) : Passed cs k := by
  induction h with
  | word h => exact passed_word h
  | positive h => exact passed_positive h
  | negative h => exact passed_negative h
  | quoted h => exact passed_quoted h
  | empty f h =>
    intro stack rest _
    rw [List.cons_append, List.append_assoc, List.singleton_append, skipFrom_empty h]
  | bracketed h ih => exact passed_bracketed h ih
  | element hfront h hback ih =>
    intro f stack rest hrest
    rw [List.append_assoc, List.append_assoc, skipFrom_space hfront,
      ih (f :: stack) _ (hrest.append hback), skipBehind_space hback]
  | listItem h ih => exact fun stack rest hrest => ih .list stack rest hrest
  | @objectItem front raw back cs hfront hkey hback h ih =>
    intro stack rest hrest
    rw [List.append_assoc, skipItem_space hfront, List.cons_append, List.append_assoc,
      List.cons_append, List.append_assoc, List.cons_append, skipItem_key hkey hback]
    exact ih .object stack rest hrest
  | @one f cs h ih =>
    intro stack rest
    rw [ih stack _ (stops_closer f rest), skipBehind_closer]
  | @more f cs ds h hs ih ihs =>
    intro stack rest
    rw [List.append_assoc, List.cons_append, ih stack _ (stops_cons (.inr (by decide)) _),
      skipBehind_comma, ihs stack rest]

/-- A value is skipped to its end, whatever follows it. -/
theorem skipValue_append {front cs rest : List Char} (hfront : Space front)
    (h : HasForm .value cs) (hrest : Stops rest) :
    skipValue (front ++ (cs ++ rest)) = .ok rest := by
  rw [skipValue, skipFrom_space hfront, h.passed [] rest hrest]
  rfl

end Json
end RoutingDump
