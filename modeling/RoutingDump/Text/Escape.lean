import RoutingDump.Text.HiddenTable

/-!
# Escapes

A file name in a complaint stands in double quotes. Double quotes, backslashes and characters that
would not show are escaped, the latter with their code in braces. A single quote stands as it is.
-/

namespace RoutingDump
namespace Text

/-- Whether a character does not show by itself. The space does. -/
def isHidden (c : Char) : Bool := inRanges HiddenTable.hidden c.toNat

/-- One character as it stands inside double quotes. -/
def escapeChar (c : Char) : List Char :=
  if c = '"' ∨ c = '\\' then ['\\', c]
  else if c = '\n' then ['\\', 'n']
  else if c = '\r' then ['\\', 'r']
  else if c = '\t' then ['\\', 't']
  else if c.toNat = 0 then ['\\', '0']
  else if isHidden c then
    ['\\', 'u', Char.ofNat 0x7B] ++ Nat.toDigits 16 c.toNat ++ [Char.ofNat 0x7D]
  else [c]

/-- A text in double quotes. -/
def quoted (s : String) : String :=
  String.ofList ('"' :: s.toList.flatMap escapeChar ++ ['"'])

end Text
end RoutingDump
