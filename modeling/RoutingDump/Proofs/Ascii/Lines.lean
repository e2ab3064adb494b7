/-!
# Lines of a text

A text consists of whole lines, each with the line feed at its end, and an open rest. In a live
dump only the whole lines count, as the rest may still be written. The last line of a finite dump
needs no line feed. More text changes no whole line: it joins the rest.
-/

namespace RoutingDump
namespace Ascii

/-- The whole lines of a text, and its rest. -/
def splitLines : List Char → List (List Char) × List Char
  | [] => ([], [])
  | c :: cs =>
    let (lines, rest) := splitLines cs
    if c = '\n' then ([c] :: lines, rest)
    else
      match lines with
      | [] => ([], c :: rest)
      | line :: lines => ((c :: line) :: lines, rest)

def wholeLines (text : List Char) : List (List Char) := (splitLines text).1

def openRest (text : List Char) : List Char := (splitLines text).2

/-- The lines that count. -/
def lines (live : Bool) (text : List Char) : List (List Char) :=
  wholeLines text ++ if live || (openRest text).isEmpty then [] else [openRest text]

theorem splitLines_lineFeed (cs : List Char) :
    splitLines ('\n' :: cs) = (['\n'] :: wholeLines cs, openRest cs) := rfl

theorem splitLines_cons {c : Char} (hc : c ≠ '\n') (cs : List Char) :
    splitLines (c :: cs) =
      match wholeLines cs with
      | [] => ([], c :: openRest cs)
      | line :: lines => ((c :: line) :: lines, openRest cs) := by
  simp only [splitLines, if_neg hc]
  rfl

theorem splitLines_of_not_mem {cs : List Char} (h : '\n' ∉ cs) : splitLines cs = ([], cs) := by
  induction cs with
  | nil => rfl
  | cons c cs ih =>
    have hc : c ≠ '\n' := fun heq => h (heq ▸ List.mem_cons_self)
    have hcs := ih fun hmem => h (List.mem_cons_of_mem c hmem)
    rw [splitLines_cons hc, wholeLines, openRest, hcs]

theorem splitLines_line {l : List Char} (hl : '\n' ∉ l) (r : List Char) :
    splitLines (l ++ '\n' :: r) = ((l ++ ['\n']) :: wholeLines r, openRest r) := by
  induction l with
  | nil => rfl
  | cons c l ih =>
    have hc : c ≠ '\n' := fun heq => hl (heq ▸ List.mem_cons_self)
    have hcs := ih fun hmem => hl (List.mem_cons_of_mem c hmem)
    rw [List.cons_append, splitLines_cons hc, wholeLines, openRest, hcs]
    rfl

/-- More text joins the rest. -/
theorem splitLines_append (s t : List Char) :
    splitLines (s ++ t) =
      (wholeLines s ++ wholeLines (openRest s ++ t), openRest (openRest s ++ t)) := by
  induction s with
  | nil => rfl
  | cons c s ih =>
    by_cases hc : c = '\n'
    · subst hc
      rw [List.cons_append, splitLines_lineFeed, wholeLines, openRest, ih]
      rfl
    · rw [List.cons_append, splitLines_cons hc, wholeLines, openRest, ih]
      have hs := splitLines_cons hc s
      cases hlines : wholeLines s with
      | nil =>
        have hrest : openRest (c :: s) = c :: openRest s := by
          rw [openRest, hs, hlines]
        have hwhole : wholeLines (c :: s) = [] := by rw [wholeLines, hs, hlines]
        rw [hrest, hwhole, List.cons_append]
        show _ = splitLines (c :: (openRest s ++ t))
        rw [splitLines_cons hc]
        rfl
      | cons line rest =>
        have hrest : openRest (c :: s) = openRest s := by rw [openRest, hs, hlines]
        have hwhole : wholeLines (c :: s) = (c :: line) :: rest := by
          rw [wholeLines, hs, hlines]
        rw [hrest, hwhole]
        rfl

theorem wholeLines_append (s t : List Char) :
    wholeLines (s ++ t) = wholeLines s ++ wholeLines (openRest s ++ t) := by
  rw [wholeLines, splitLines_append]

theorem openRest_append (s t : List Char) : openRest (s ++ t) = openRest (openRest s ++ t) := by
  rw [openRest, splitLines_append]

theorem openRest_line {l : List Char} (hl : '\n' ∉ l) (r : List Char) :
    openRest (l ++ '\n' :: r) = openRest r := by
  rw [openRest, splitLines_line hl]

theorem lines_line {l : List Char} (hl : '\n' ∉ l) (live : Bool) (r : List Char) :
    lines live (l ++ '\n' :: r) = (l ++ ['\n']) :: lines live r := by
  rw [lines, openRest_line hl, wholeLines, splitLines_line hl]
  rfl

theorem lines_of_not_mem {cs : List Char} (h : '\n' ∉ cs) (live : Bool) :
    lines live cs = if live || cs.isEmpty then [] else [cs] := by
  rw [lines, wholeLines, openRest, splitLines_of_not_mem h]
  rfl

theorem lines_live (text : List Char) : lines true text = wholeLines text := List.append_nil _

end Ascii
end RoutingDump
