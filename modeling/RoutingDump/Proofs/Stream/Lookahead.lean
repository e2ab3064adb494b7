import RoutingDump.Stream.Pull

/-!
# One record ahead

Two slots that exchange their roles, with a flag each, hold no more than one record that waits to
be handed out. A `Lookahead` is a stream reduced to that: the decoder, the life of the stream, the
body that waits and the time last seen. `lookahead_advance` says that a pull of the stream is a
pull of its lookahead, so what follows about pulls never looks at a slot again.

Both slots carry the origin of the resource (`Stamped`). The lookahead keeps bodies only, and it is
this invariant that gives the records back.
-/

namespace RoutingDump

namespace Outcome

/-- A call with this outcome leaves a record to hand out. -/
def delivers (live : Bool) : Outcome → Bool
  | .ok | .corruptedMessage | .unsupportedMessage => true
  | .filteredDump | .emptyDump | .corruptedDump => !live
  | .readError | .endOfDump => false

/-- A call with this outcome is the last one. -/
def stops (live : Bool) : Outcome → Bool
  | .readError => true
  | o => !live && o.endsDump

def tellsTime (live : Bool) : Outcome → Bool
  | .ok => true
  | .readError | .corruptedMessage | .unsupportedMessage => false
  | .endOfDump | .filteredDump | .emptyDump | .corruptedDump => !live

def lifecycle (live : Bool) (before : Lifecycle) : Outcome → Lifecycle
  | .readError => .failed
  | o => if !live && o.endsDump then .exhausted else before

end Outcome

/-- The answer says that the record in front of it is the last of a finite dump. -/
def Decoded.marksEnd {σ P : Type} (live : Bool) (a : Decoded σ P) : Bool :=
  !live && decide (a.outcome = .endOfDump ∧ a.body.position = .last)

/-- What an answer leaves to hand out. -/
def Decoded.offer {σ P : Type} (live : Bool) (a : Decoded σ P) : Option (Body P) :=
  if a.outcome.delivers live then some a.body else none

def Body.asLast {P : Type} (b : Body P) : Body P := { b with position := .last }

/-- A stream reduced to what its next pull depends on. -/
structure Lookahead (σ P : Type) where
  decoder : σ
  state : Lifecycle := .active
  waiting : Option (Body P) := none
  nextTime : Option UInt32 := none

namespace Lookahead

variable {σ P : Type}

/-- Takes in an answer. What waited before has been handed out. -/
def absorb (live : Bool) (l : Lookahead σ P) (a : Decoded σ P) : Lookahead σ P where
  decoder := a.state
  state := a.outcome.lifecycle live l.state
  waiting := a.offer live
  nextTime := if a.outcome.tellsTime live then some a.body.sec else l.nextTime

/-- The answer to the next decode call. -/
def answer (D : Decoder σ P) (resource : Resource) (l : Lookahead σ P) : Decoded σ P :=
  D.decode l.decoder { origin := resource.origin }

/-- What a pull gives when `waiting` is handed out and the stream is in the given state. -/
def result (resource : Resource) (state : Lifecycle) : Option (Body P) → Pull P
  | some body => .ok ⟨resource.origin, body⟩
  | none => if resource.isLive && state == .active then .again else .endOfStream none

/-- One pull: what waits is handed out, marked if the answer of the next call says so. -/
def pull (D : Decoder σ P) (resource : Resource) (l : Lookahead σ P) : Pull P × Lookahead σ P :=
  if l.state = .active then
    let a := l.answer D resource
    let next := l.absorb resource.isLive a
    if a.outcome = .readError then (.error (.readFailed resource.url), next)
    else
      let body := if a.marksEnd resource.isLive then l.waiting.map Body.asLast else l.waiting
      (result resource next.state body, next)
  else (result resource l.state l.waiting, { l with waiting := none })

end Lookahead

def Slot.body? {P : Type} (s : Slot P) : Option (Body P) :=
  if s.filled then some s.record.body else none

namespace Event

variable {P : Type}

theorem decodes_append (es fs : List (Event P)) : decodes (es ++ fs) = decodes es ++ decodes fs :=
  List.filterMap_append

theorem decodes_notices (ns : List Notice) : decodes (ns.map (notice (P := P))) = [] := by
  simp [decodes, decode?]

end Event

namespace Buffer

variable {P : Type}

/-- Both records carry the given origin. -/
def Stamped (origin : Origin) (b : Buffer P) : Prop :=
  ∀ side, (b.slot side).record.origin = origin

theorem stamped_setSlot {origin : Origin} {b : Buffer P} (h : b.Stamped origin) (side : Side)
    {s : Slot P} (hs : s.record.origin = origin) : (b.setSlot side s).Stamped origin := by
  intro other
  by_cases hside : other = side
  · rw [hside, slot_setSlot_self]
    exact hs
  · have hother : other = side.other := by cases other <;> cases side <;> simp_all [Side.other]
    rw [hother, slot_setSlot_other]
    exact h _

theorem stamped_flip {origin : Origin} {b : Buffer P} (h : b.Stamped origin) :
    b.flip.Stamped origin := by
  intro side
  rw [slot_flip]
  exact h side

end Buffer

namespace Stream

variable {σ P : Type}

def lookahead (s : Stream σ P) : Lookahead σ P where
  decoder := s.decoder
  state := s.state
  waiting := s.buffer.prefetch.body?
  nextTime := s.nextTime

/-- Both records carry the origin of the resource. -/
def Stamped (s : Stream σ P) : Prop := s.buffer.Stamped s.resource.origin

/-- The buffer with an answer taken in: the slot ahead holds its body, and the end of a dump is
marked on the record in the other slot. -/
def received (s : Stream σ P) (a : Decoded σ P) : Buffer P :=
  let live := s.resource.isLive
  let record : Record P := { s.buffer.prefetch.record with body := a.body }
  let buffer := s.buffer.setPrefetch
    { record := record, filled := a.outcome.delivers live || s.buffer.prefetch.filled }
  if a.marksEnd live && s.buffer.exported.filled then
    buffer.setExported
      { s.buffer.exported with record :=
        { s.buffer.exported.record with body := s.buffer.exported.record.body.asLast } }
  else buffer

theorem absorb_fst (s : Stream σ P) (a : Decoded σ P) :
    (s.absorb a).1 =
      { resource := s.resource
        decoder := a.state
        buffer := s.received a
        state := a.outcome.lifecycle s.resource.isLive s.state
        nextTime :=
          if a.outcome.tellsTime s.resource.isLive then some a.body.sec else s.nextTime } := by
  unfold absorb received Outcome.lifecycle Outcome.delivers Outcome.tellsTime Decoded.marksEnd
  cases ho : a.outcome <;> cases hl : s.resource.isLive <;>
    simp [Outcome.endsDump, Outcome.isMessageError, Body.asLast]

theorem ahead_received (s : Stream σ P) (a : Decoded σ P) :
    (s.received a).ahead = s.buffer.ahead := by
  unfold received
  dsimp only
  split
  · simp [Buffer.setPrefetch, Buffer.setExported]
  · simp [Buffer.setPrefetch]

theorem prefetch_received (s : Stream σ P) (a : Decoded σ P) :
    (s.received a).prefetch =
      { record := { s.buffer.prefetch.record with body := a.body }
        filled := a.outcome.delivers s.resource.isLive || s.buffer.prefetch.filled } := by
  unfold received
  dsimp only
  split
  · simp [Buffer.prefetch, Buffer.setPrefetch, Buffer.setExported]
  · simp [Buffer.prefetch, Buffer.setPrefetch]

/-- The other slot keeps what it has to hand out, up to the mark. -/
theorem exported_received (s : Stream σ P) (a : Decoded σ P) :
    (s.received a).exported.body? =
      if a.marksEnd s.resource.isLive then s.buffer.exported.body?.map Body.asLast
      else s.buffer.exported.body? := by
  unfold received
  dsimp only
  cases hm : a.marksEnd s.resource.isLive <;> cases hf : s.buffer.exported.filled
  · simp [Buffer.exported, Buffer.setPrefetch]
  · simp [Buffer.exported, Buffer.setPrefetch]
  · simp [Buffer.exported, Buffer.setPrefetch, Slot.body?] at hf ⊢
    simp [hf]
  · simp [Buffer.exported, Buffer.setPrefetch, Buffer.setExported, Slot.body?] at hf ⊢
    simp [hf]

theorem stamped_received {s : Stream σ P} (h : s.Stamped) (a : Decoded σ P) :
    (s.received a).Stamped s.resource.origin := by
  unfold received
  dsimp only
  have hahead : (s.buffer.setPrefetch
      { record := { s.buffer.prefetch.record with body := a.body }
        filled := a.outcome.delivers s.resource.isLive || s.buffer.prefetch.filled }).Stamped
          s.resource.origin :=
    Buffer.stamped_setSlot h _ (h _)
  split
  · exact Buffer.stamped_setSlot hahead _ (h _)
  · exact hahead

/-! ### Turning -/

@[simp] theorem decoder_turn (s : Stream σ P) : s.turn.decoder = s.decoder := rfl

@[simp] theorem state_turn (s : Stream σ P) : s.turn.state = s.state := rfl

@[simp] theorem nextTime_turn (s : Stream σ P) : s.turn.nextTime = s.nextTime := rfl

theorem ahead_turn (s : Stream σ P) : s.turn.buffer.ahead = s.buffer.ahead.other := by
  simp [turn, Buffer.setExported]

@[simp] theorem exported_turn (s : Stream σ P) : s.turn.buffer.exported = s.buffer.prefetch := by
  simp [turn, Buffer.exported, Buffer.prefetch, Buffer.setExported]

@[simp] theorem prefetch_turn (s : Stream σ P) :
    s.turn.buffer.prefetch = { s.buffer.exported with filled := false } := by
  simp [turn, Buffer.exported, Buffer.prefetch, Buffer.setExported]

theorem stamped_turn {s : Stream σ P} (h : s.Stamped) : s.turn.Stamped :=
  Buffer.stamped_flip (Buffer.stamped_setSlot h _ (h _))

theorem result_eq {s : Stream σ P} (h : s.Stamped) :
    s.result = Lookahead.result s.resource s.state s.buffer.exported.body? := by
  have horigin : s.buffer.exported.record.origin = s.resource.origin := h _
  unfold result Slot.body?
  cases hf : s.buffer.exported.filled
  · simp [Lookahead.result]
  · simp [Lookahead.result, ← horigin]

/-! ### The two agree -/

variable {D : Decoder σ P}

theorem value_prefetch {s : Stream σ P} (h : s.Stamped) :
    (s.prefetch D).value =
      ((s.lookahead.answer D s.resource).outcome,
        (s.absorb (s.lookahead.answer D s.resource)).1) := by
  have hrecord : s.buffer.prefetch.record.clear = { origin := s.resource.origin } := by
    rw [← h s.buffer.ahead]
    rfl
  unfold prefetch Lookahead.answer
  rw [hrecord]
  rfl

theorem decodes_prefetch {s : Stream σ P} (h : s.Stamped) :
    Event.decodes (s.prefetch D).events =
      [(s.buffer.ahead, { origin := s.resource.origin })] := by
  have hrecord : s.buffer.prefetch.record.clear = { origin := s.resource.origin } := by
    rw [← h s.buffer.ahead]
    rfl
  unfold prefetch
  rw [hrecord]
  show (s.buffer.ahead, _) :: Event.decodes (List.map Event.notice _) = _
  rw [Event.decodes_notices]

theorem stamped_absorb {s : Stream σ P} (h : s.Stamped) (a : Decoded σ P) :
    (s.absorb a).1.Stamped := by
  rw [absorb_fst]
  exact stamped_received h a

theorem lookahead_absorb {s : Stream σ P} (a : Decoded σ P)
    (hempty : s.buffer.prefetch.filled = false) :
    (s.absorb a).1.lookahead = s.lookahead.absorb s.resource.isLive a := by
  rw [absorb_fst]
  simp only [lookahead, Lookahead.absorb, Decoded.offer, prefetch_received, hempty,
    Bool.or_false, Slot.body?]

theorem resource_absorb (s : Stream σ P) (a : Decoded σ P) :
    (s.absorb a).1.resource = s.resource := by
  rw [absorb_fst]

theorem value_advance_of_active {s : Stream σ P} (h : s.Stamped) (hactive : s.state = .active) :
    (s.advance D).value =
      let a := s.lookahead.answer D s.resource
      let next := (s.turn.absorb a).1
      (if a.outcome = .readError then .error (.readFailed s.resource.url) else next.result,
        next) := by
  have hvalue : (s.turn.prefetch D).value =
      ((s.lookahead.answer D s.resource).outcome,
        (s.turn.absorb (s.lookahead.answer D s.resource)).1) := value_prefetch (stamped_turn h)
  unfold advance
  dsimp only
  rw [if_pos (show s.turn.state = .active from hactive)]
  generalize s.turn.prefetch D = t at hvalue ⊢
  obtain ⟨events, value⟩ := t
  dsimp only at hvalue
  rw [hvalue]
  dsimp only
  split
  · rw [resource_absorb]
    rfl
  · rfl

theorem value_advance_of_inactive {s : Stream σ P} (hinactive : s.state ≠ .active) :
    (s.advance D).value = (s.turn.result, s.turn) := by
  unfold advance
  dsimp only
  rw [if_neg (show ¬ s.turn.state = .active from hinactive)]

theorem result_absorb_turn {s : Stream σ P} (h : s.Stamped) (a : Decoded σ P) :
    (s.turn.absorb a).1.result =
      Lookahead.result s.resource (a.outcome.lifecycle s.resource.isLive s.state)
        (if a.marksEnd s.resource.isLive then s.lookahead.waiting.map Body.asLast
          else s.lookahead.waiting) := by
  rw [result_eq (stamped_absorb (stamped_turn h) a), absorb_fst]
  dsimp only
  rw [exported_received, exported_turn]
  rfl

/-- A pull of the stream is a pull of its lookahead. -/
theorem lookahead_advance {s : Stream σ P} (h : s.Stamped) :
    (s.advance D).value.1 = (s.lookahead.pull D s.resource).1 ∧
      (s.advance D).value.2.lookahead = (s.lookahead.pull D s.resource).2 := by
  unfold Lookahead.pull
  by_cases hactive : s.state = .active
  · rw [value_advance_of_active h hactive, if_pos (show s.lookahead.state = .active from hactive)]
    dsimp only
    rw [result_absorb_turn h, lookahead_absorb _ (by simp)]
    by_cases hread : (s.lookahead.answer D s.resource).outcome = .readError
    · rw [if_pos hread, if_pos hread]
      exact ⟨rfl, rfl⟩
    · rw [if_neg hread, if_neg hread]
      exact ⟨rfl, rfl⟩
  · rw [value_advance_of_inactive hactive, if_neg (show ¬ s.lookahead.state = .active from hactive),
      result_eq (stamped_turn h), exported_turn]
    refine ⟨rfl, ?_⟩
    simp [lookahead, Slot.body?]

theorem stamped_advance {s : Stream σ P} (h : s.Stamped) : (s.advance D).value.2.Stamped := by
  by_cases hactive : s.state = .active
  · rw [value_advance_of_active h hactive]
    exact stamped_absorb (stamped_turn h) _
  · rw [value_advance_of_inactive hactive]
    exact stamped_turn h

theorem resource_advance {s : Stream σ P} (h : s.Stamped) :
    (s.advance D).value.2.resource = s.resource := by
  by_cases hactive : s.state = .active
  · rw [value_advance_of_active h hactive]
    exact resource_absorb s.turn _
  · rw [value_advance_of_inactive hactive]
    rfl

theorem ahead_advance {s : Stream σ P} (h : s.Stamped) :
    (s.advance D).value.2.buffer.ahead = s.buffer.ahead.other := by
  by_cases hactive : s.state = .active
  · rw [value_advance_of_active h hactive]
    dsimp only
    rw [absorb_fst, ahead_received, ahead_turn]
  · rw [value_advance_of_inactive hactive]
    exact ahead_turn s

/-- A pull decodes once while the stream is active, into the slot that was handed out last. -/
theorem decodes_advance {s : Stream σ P} (h : s.Stamped) :
    Event.decodes (s.advance D).events =
      if s.state = .active then [(s.buffer.ahead.other, { origin := s.resource.origin })]
      else [] := by
  by_cases hactive : s.state = .active
  · have hprefetch := decodes_prefetch (D := D) (stamped_turn h)
    unfold advance
    dsimp only
    rw [if_pos (show s.turn.state = .active from hactive), if_pos hactive]
    generalize s.turn.prefetch D = t at hprefetch ⊢
    obtain ⟨events, outcome, next⟩ := t
    dsimp only at hprefetch ⊢
    split
    · rw [Event.decodes_append, hprefetch, ahead_turn]
      rfl
    · rw [hprefetch, ahead_turn]
      rfl
  · unfold advance
    dsimp only
    rw [if_neg (show ¬ s.turn.state = .active from hactive), if_neg hactive]
    rfl

end Stream
end RoutingDump
