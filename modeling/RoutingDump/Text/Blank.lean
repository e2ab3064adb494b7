/-!
# Blank characters

A line of a dump and the value of an environment variable are both read with the blank
characters at their ends removed. Blank means the `White_Space` property of Unicode, twenty-five
characters, of which `Char.isWhitespace` knows four.
-/

namespace RoutingDump
namespace Text

/-- The characters with the property `White_Space`. -/
def isBlank (c : Char) : Bool :=
  let n := c.toNat
  (9 ≤ n && n ≤ 13) || n == 0x20 || n == 0x85 || n == 0xA0 || n == 0x1680 ||
    (0x2000 ≤ n && n ≤ 0x200A) || n == 0x2028 || n == 0x2029 || n == 0x202F || n == 0x205F ||
    n == 0x3000

/-- What is left after the blanks in front. -/
def trimStart (cs : List Char) : List Char := cs.dropWhile isBlank

/-- What is left before the blanks at the end. -/
def trimEnd (cs : List Char) : List Char := (cs.reverse.dropWhile isBlank).reverse

/-- Both ends trimmed. Blanks inside stay. -/
def trim (cs : List Char) : List Char := trimEnd (trimStart cs)

@[simp] theorem trim_nil : trim [] = [] := rfl

/-- A line feed ends a line and is blank, so trimming also takes off the end of the line. -/
theorem isBlank_lineFeed : isBlank '\n' = true := by decide

end Text
end RoutingDump
