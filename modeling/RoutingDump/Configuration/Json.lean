import RoutingDump.Configuration.Basic

/-!
# Configuration files

A file is an object whose members are fields of the configuration, in any order, each at most
once; members with other keys are skipped. A list of up to three values, in the order of the
fields, is taken too.
-/

namespace RoutingDump
namespace Configuration

open Json (Fault skipSpace skipColon skipValue readQuoted readNatural)

/-- The value of a field. -/
def readField (s : Setting) (l : Layer) (cs : List Char) : Except Fault (Layer × List Char) :=
  match readNatural s.limit cs with
  | .error e => .error e
  | .ok (n, r) => .ok (l.set s n, r)

/-- A member behind the opening quote of its key. A known key may not come twice, which is seen
before its value. -/
def readMember (l : Layer) (cs : List Char) : Except Fault (Layer × List Char) :=
  match readQuoted cs with
  | .error e => .error e
  | .ok (key, r) =>
    match Setting.ofKey? key with
    | some s =>
      if (l s).isSome then .error .unsuitable
      else
        match skipColon r with
        | .error e => .error e
        | .ok r => readField s l r
    | none =>
      match skipColon r with
      | .error e => .error e
      | .ok r =>
        match skipValue r with
        | .error e => .error e
        | .ok r => .ok (l, r)

/-- The text behind the opening quote of the next key, or behind the closing brace. -/
inductive NextMember where
  | key (rest : List Char)
  | close (rest : List Char)

/-- Looks for the next member. The first one stands without a comma. -/
def nextMember (first : Bool) (cs : List Char) : Except Fault NextMember :=
  match skipSpace cs with
  | [] => .error .truncated
  | c :: r =>
    if c = '}' then .ok (.close r)
    else if first then if c = '"' then .ok (.key r) else .error .malformed
    else if c = ',' then
      match skipSpace r with
      | [] => .error .truncated
      | c :: r => if c = '"' then .ok (.key r) else .error .malformed
    else .error .malformed

theorem length_nextMember {first : Bool} {cs r : List Char}
    (h : nextMember first cs = .ok (.key r)) : r.length < cs.length := by
  unfold nextMember at h
  split at h
  · cases h
  · rename_i hs
    have h1 := Json.length_of_skipSpace hs
    split at h
    · cases h
    · split at h
      · split at h
        · cases h; exact h1
        · cases h
      · split at h
        · split at h
          · cases h
          · rename_i hs2
            have h2 := Json.length_of_skipSpace hs2
            split at h
            · cases h; omega
            · cases h
        · cases h

theorem length_readField {s : Setting} {l l' : Layer} {cs r : List Char}
    (h : readField s l cs = .ok (l', r)) : r.length < cs.length := by
  unfold readField at h
  split at h
  · cases h
  · rename_i hn
    cases h
    exact Json.length_readNatural hn

theorem length_readMember {l l' : Layer} {cs r : List Char}
    (h : readMember l cs = .ok (l', r)) : r.length < cs.length := by
  unfold readMember at h
  split at h
  · cases h
  · rename_i hq
    have h1 := Json.length_readQuoted hq
    split at h
    · split at h
      · cases h
      · split at h
        · cases h
        · rename_i hc
          have h2 := Json.length_skipColon hc
          have h3 := length_readField h
          omega
    · split at h
      · cases h
      · rename_i hc
        have h2 := Json.length_skipColon hc
        split at h
        · cases h
        · rename_i hv
          have h3 := Json.length_skipValue hv
          cases h
          omega

/-- Members up to the closing brace. -/
def readMembers (first : Bool) (l : Layer) (cs : List Char) :
    Except Fault (Layer × List Char) :=
  match hnext : nextMember first cs with
  | .error e => .error e
  | .ok (.close r) => .ok (l, r)
  | .ok (.key r) =>
    match hmember : readMember l r with
    | .error e => .error e
    | .ok (l, r') =>
      have := length_nextMember hnext
      have := length_readMember hmember
      readMembers false l r'
termination_by cs.length

/-- Values of the given fields in order, up to the closing bracket of the list. Further values
are malformed. -/
def readElements (first : Bool) (l : Layer) :
    List Setting → List Char → Except Fault (Layer × List Char)
  | [], cs =>
    match skipSpace cs with
    | [] => .error .truncated
    | c :: r => if c = ']' then .ok (l, r) else .error .malformed
  | s :: ss, cs =>
    match skipSpace cs with
    | [] => .error .truncated
    | c :: r =>
      if c = ']' then .ok (l, r)
      else if first then
        match readField s l (c :: r) with
        | .error e => .error e
        | .ok (l, r) => readElements false l ss r
      else if c = ',' then
        match skipSpace r with
        | [] => .error .truncated
        | c :: r =>
          if c = ']' then .error .malformed
          else
            match readField s l (c :: r) with
            | .error e => .error e
            | .ok (l, r) => readElements false l ss r
      else .error .malformed

/-- The whole text of a file. -/
def readLayer (cs : List Char) : Except Fault Layer :=
  match skipSpace cs with
  | [] => .error .truncated
  | c :: r =>
    let value : Except Fault (Layer × List Char) :=
      if c = '[' then readElements true .none Setting.all r
      else if c = '{' then readMembers true .none r
      else .error (Json.mismatch (c :: r))
    match value with
    | .error e => .error e
    | .ok (l, rest) => if (skipSpace rest).isEmpty then .ok l else .error .malformed

/-- The text of a file that holds all fields. -/
def toJson (c : Configuration) : String :=
  let member (s : Setting) : String := "\"" ++ s.key ++ "\":" ++ toString (c.get s)
  "\x7b" ++ String.intercalate "," (Setting.all.map member) ++ "\x7d"

/-- A file with the given bytes. -/
def ofBytes (bytes : List UInt8) : Except ConfigurationError Configuration :=
  match Text.Utf8.decode? bytes with
  | none => .error (.file .notText)
  | some text =>
    match readLayer text with
    | .error fault => .error (.json fault)
    | .ok l => (({} : Configuration).overlay l).validate

end Configuration
end RoutingDump
