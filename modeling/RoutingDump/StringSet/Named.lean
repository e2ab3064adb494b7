import RoutingDump.StringSet

/-!
# Named sets

Several sets side by side, told apart by name. An action works on one of them and may look at
another one; what it answers tells whether it changed anything. A name that was never used stands
for the empty set.
-/

namespace RoutingDump

/-- The set behind each name. -/
abbrev NamedSets := String → StringSet

/-- What can be done to a named set. The text of an action is a member, `source` is the name of
another set. -/
inductive SetAction where
  | clear
  | replace (members : List String)
  | insert (text : String)
  | erase (text : String)
  | contains (text : String)
  | union (source : String)
  | copy (source : String)
  | equals (source : String)
  | members
  | size
  deriving DecidableEq, Repr

/-- What an action tells its caller. -/
inductive SetAnswer where
  | nothing
  | flag (b : Bool)
  | members (texts : List String)
  | size (n : Nat)
  deriving DecidableEq, Repr

namespace NamedSets

def empty : NamedSets := fun _ => ∅

/-- The sets with `s` under `name`. -/
def put (sets : NamedSets) (name : String) (s : StringSet) : NamedSets :=
  fun other => if other = name then s else sets other

/-- One action on the set `name`. -/
def step (sets : NamedSets) (name : String) : SetAction → SetAnswer × NamedSets
  | .clear => (.nothing, sets.put name ∅)
  | .replace texts => (.nothing, sets.put name (.ofList texts))
  | .insert text =>
    let (isNew, s) := (sets name).insert text
    (.flag isNew, sets.put name s)
  | .erase text =>
    let (wasThere, s) := (sets name).erase text
    (.flag wasThere, sets.put name s)
  | .contains text => (.flag ((sets name).contains text), sets)
  | .union source => (.nothing, sets.put name ((sets name).union (sets source)))
  | .copy source => (.nothing, sets.put name (sets source))
  | .equals source => (.flag (sets name == sets source), sets)
  | .members => (.members (sets name).sorted, sets)
  | .size => (.size (sets name).size, sets)

/-- Actions one after the other. -/
def run (sets : NamedSets) : List (String × SetAction) → List SetAnswer × NamedSets
  | [] => ([], sets)
  | (name, action) :: rest =>
    let (answer, sets) := sets.step name action
    let (answers, sets) := sets.run rest
    (answer :: answers, sets)

@[simp] theorem put_self (sets : NamedSets) (name : String) (s : StringSet) :
    sets.put name s name = s := by simp [put]

/-- A change of one set leaves the others alone. -/
theorem put_other {sets : NamedSets} {name other : String} {s : StringSet} (h : other ≠ name) :
    sets.put name s other = sets other := by simp [put, h]

/-- An action changes no set but its own. -/
theorem step_other {sets : NamedSets} {name other : String} (action : SetAction)
    (h : other ≠ name) : (sets.step name action).2 other = sets other := by
  cases action <;> simp [step, put_other h]

end NamedSets
end RoutingDump
