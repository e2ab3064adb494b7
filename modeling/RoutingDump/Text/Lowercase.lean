import RoutingDump.Text.CaseTable

/-!
# Lower case

Names of record types and of log levels are compared without regard to case. Lower case is taken
over all of Unicode, because a name that is refused is shown back in lower case. One rule looks at
the context: a capital sigma becomes a final sigma where a word ends.
-/

namespace RoutingDump
namespace Text

/-- The lower case of one character by table, as one character. -/
def lowerChar (c : Char) : Char :=
  let n := c.toNat
  match CaseTable.lower.find? (fun (first, last, step, _) =>
      first ≤ n && n ≤ last && (n - first) % step == 0) with
  | some (_, _, _, offset) => Char.ofNat (Int.toNat (n + offset))
  | none => c

/-- Whether the first character that is not ignorable exists and is cased. -/
def casedNext (cs : List Char) : Bool :=
  match cs.dropWhile (fun c => inRanges CaseTable.ignorable c.toNat) with
  | [] => false
  | c :: _ => inRanges CaseTable.cased c.toNat

/-- Lower case of `cs`, where `before` holds the characters in front of it, nearest first. -/
def lowercaseFrom (before : List Char) : List Char → List Char
  | [] => []
  | c :: cs =>
    let lowered :=
      if c.toNat == 0x3A3 then
        if casedNext before && !casedNext cs then [Char.ofNat 0x3C2] else [Char.ofNat 0x3C3]
      else if c.toNat == 0x130 then ['i', Char.ofNat 0x307]
      else [lowerChar c]
    lowered ++ lowercaseFrom (c :: before) cs

/-- The lower case of a text. -/
def lowercase (cs : List Char) : List Char := lowercaseFrom [] cs

/-- The lower case of a string. -/
def lowercaseString (s : String) : String := String.ofList (lowercase s.toList)

end Text
end RoutingDump
