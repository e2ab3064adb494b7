import RoutingDump.Failure

/-!
# Paths

A path is read once into its steps. It may start at the root or at the working directory, and a
slash at its end asks for a directory.
-/

namespace RoutingDump

/-- One step of a path. -/
inductive PathStep where
  | here
  | up
  | name (n : String)
  deriving DecidableEq, Repr

/-- A path: where it starts and its steps. A slash at the end asks for a directory. -/
structure FilePath where
  absolute : Bool
  steps : List PathStep
  slashed : Bool
  deriving DecidableEq, Repr

namespace FilePath

/-- The pieces between the marks. -/
def pieces (mark : Char) : List Char → List (List Char)
  | [] => [[]]
  | c :: cs =>
    if c = mark then [] :: pieces mark cs
    else
      match pieces mark cs with
      | [] => [[c]]
      | p :: ps => (c :: p) :: ps

def step? : List Char → Option PathStep
  | [] => none
  | ['.'] => some .here
  | ['.', '.'] => some .up
  | cs => some (.name (String.ofList cs))

/-- The longest path, in bytes, and the longest name in one. -/
def maxPathBytes : Nat := 4095

def maxNameBytes : Nat := 255

/-- Reads a path. Empty pieces do not count. -/
def ofString (s : String) : Except IoError FilePath :=
  let cs := s.toList
  if cs.contains (Char.ofNat 0) then .error .nulInName
  else if cs.isEmpty then .error .noEntry
  else if maxPathBytes < s.utf8ByteSize then .error .nameTooLong
  else .ok
    { absolute := cs.head? == some '/'
      steps := (pieces '/' cs).filterMap step?
      slashed := cs.getLast? == some '/' }

/-- The path one level up, where steps that stay in place at the end do not count. -/
def parent (p : FilePath) : FilePath :=
  let dropHere (steps : List PathStep) : List PathStep :=
    (steps.reverse.dropWhile (· == .here)).reverse
  { p with steps := dropHere (dropHere p.steps).dropLast, slashed := false }

def child (p : FilePath) (name : String) : FilePath :=
  { p with steps := p.steps ++ [.name name], slashed := false }

end FilePath

end RoutingDump
