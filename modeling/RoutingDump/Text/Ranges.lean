/-!
# Ranges of codes

A property of characters is given by a table: a list of ranges of codes, both ends included. The
tables are kept in order and no two of their ranges touch.
-/

namespace RoutingDump
namespace Text

/-- Whether some range of the table holds `n`. -/
def inRanges (table : List (Nat × Nat)) (n : Nat) : Bool :=
  table.any fun (first, last) => first ≤ n && n ≤ last

/-- Whether the ranges ascend and leave at least one code between each other. -/
def ascending : List (Nat × Nat) → Bool
  | [] => true
  | [(first, last)] => first ≤ last
  | (first, last) :: (next, end') :: rest =>
    first ≤ last && last + 1 < next && ascending ((next, end') :: rest)

end Text
end RoutingDump
