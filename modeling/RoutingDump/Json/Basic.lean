/-!
# JSON texts

Configuration files are JSON. A text is read once from the left and the first fault decides what
is said about it, so every scanner below takes the text still to be read and returns what is left
of it, which is shorter.
-/

namespace RoutingDump
namespace Json

/-- Why a text is refused: it breaks the grammar, it is well-formed so far but not what was asked
for, or it ends too early. -/
inductive Fault where
  | malformed
  | unsuitable
  | truncated
  deriving DecidableEq, Repr

def Fault.message : Fault → String
  | .malformed => "the text is not well-formed"
  | .unsuitable => "the text holds an unsuitable value"
  | .truncated => "the text ends too early"

/-- The space allowed between tokens. -/
def isSpace (c : Char) : Bool := c == ' ' || c == '\n' || c == '\t' || c == '\r'

def skipSpace (cs : List Char) : List Char := cs.dropWhile isSpace

def isDigit (c : Char) : Bool := '0' ≤ c && c ≤ '9'

/-- Skips the letters of a word. -/
def skipWord : List Char → List Char → Except Fault (List Char)
  | [], cs => .ok cs
  | _ :: _, [] => .error .truncated
  | w :: ws, c :: cs => if c = w then skipWord ws cs else .error .malformed

/-- Skips the colon between a key and its value. -/
def skipColon (cs : List Char) : Except Fault (List Char) :=
  match skipSpace cs with
  | [] => .error .truncated
  | c :: r => if c = ':' then .ok r else .error .malformed

theorem length_dropWhile_le (p : Char → Bool) (cs : List Char) :
    (cs.dropWhile p).length ≤ cs.length := (List.dropWhile_sublist p).length_le

theorem length_skipSpace (cs : List Char) : (skipSpace cs).length ≤ cs.length :=
  length_dropWhile_le _ _

theorem length_of_skipSpace {cs r : List Char} {c : Char} (h : skipSpace cs = c :: r) :
    r.length < cs.length := by
  have := length_skipSpace cs
  rw [h] at this
  exact this

theorem length_skipWord {ws cs r : List Char} (h : skipWord ws cs = .ok r) :
    r.length ≤ cs.length := by
  induction ws generalizing cs with
  | nil => cases h; exact Nat.le_refl _
  | cons w ws ih =>
    cases cs with
    | nil => cases h
    | cons c cs =>
      unfold skipWord at h
      split at h
      · exact Nat.le_succ_of_le (ih h)
      · cases h

theorem length_skipColon {cs r : List Char} (h : skipColon cs = .ok r) :
    r.length < cs.length := by
  unfold skipColon at h
  split at h
  · cases h
  · rename_i hs
    split at h
    · cases h; exact length_of_skipSpace hs
    · cases h

end Json
end RoutingDump
