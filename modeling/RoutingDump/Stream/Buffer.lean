import RoutingDump.Decoder

/-!
# The double buffer

Two slots take turns. One is filled ahead of time, the other holds the record that the caller
looks at. Only the roles are exchanged, the records stay where they are.
-/

namespace RoutingDump

/-- A record and whether it waits to be handed out. -/
structure Slot (P : Type) where
  record : Record P
  filled : Bool := false

/-- Both slots, and which of them is to be filled next. -/
structure Buffer (P : Type) where
  left : Slot P
  right : Slot P
  ahead : Side := .left

namespace Buffer

variable {P : Type}

def slot (b : Buffer P) : Side → Slot P
  | .left => b.left
  | .right => b.right

def setSlot (b : Buffer P) (side : Side) (s : Slot P) : Buffer P :=
  match side with
  | .left => { b with left := s }
  | .right => { b with right := s }

/-- The slot to be filled next. -/
def prefetch (b : Buffer P) : Slot P := b.slot b.ahead

/-- The slot handed out. -/
def exported (b : Buffer P) : Slot P := b.slot b.ahead.other

def setPrefetch (b : Buffer P) (s : Slot P) : Buffer P := b.setSlot b.ahead s

def setExported (b : Buffer P) (s : Slot P) : Buffer P := b.setSlot b.ahead.other s

/-- Exchanges the roles. -/
def flip (b : Buffer P) : Buffer P := { b with ahead := b.ahead.other }

/-- Two new records of a decoder, stamped with the resource. The first failure is final. -/
def allocate {σ : Type} (D : Decoder σ P) (resource : Resource) (state : σ) :
    Creation (Buffer P) × σ :=
  match D.create state with
  | (.failed e, state) => (.failed e, state)
  | (.crashed, state) => (.crashed, state)
  | (.made first, state) =>
    match D.create state with
    | (.failed e, state) => (.failed e, state)
    | (.crashed, state) => (.crashed, state)
    | (.made second, state) =>
      (.made { left := { record := ⟨resource.origin, first⟩ }
               right := { record := ⟨resource.origin, second⟩ } }, state)

@[simp] theorem slot_setSlot_self (b : Buffer P) (side : Side) (s : Slot P) :
    (b.setSlot side s).slot side = s := by cases side <;> rfl

@[simp] theorem slot_setSlot_other (b : Buffer P) (side : Side) (s : Slot P) :
    (b.setSlot side s).slot side.other = b.slot side.other := by cases side <;> rfl

@[simp] theorem slot_other_setSlot (b : Buffer P) (side : Side) (s : Slot P) :
    (b.setSlot side.other s).slot side = b.slot side := by cases side <;> rfl

@[simp] theorem ahead_setSlot (b : Buffer P) (side : Side) (s : Slot P) :
    (b.setSlot side s).ahead = b.ahead := by cases side <;> rfl

@[simp] theorem ahead_flip (b : Buffer P) : b.flip.ahead = b.ahead.other := rfl

@[simp] theorem slot_flip (b : Buffer P) (side : Side) : b.flip.slot side = b.slot side := by
  cases side <;> rfl

@[simp] theorem flip_flip (b : Buffer P) : b.flip.flip = b := by
  cases b; simp [flip]

end Buffer
end RoutingDump
