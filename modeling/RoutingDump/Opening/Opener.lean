import RoutingDump.Opening.RetryPolicy
import RoutingDump.Stream.Pull

/-!
# Opening a stream

Building a decoder may fail for a while, so it is tried again under a retry policy. The reader
may be given up meanwhile: a wait that finds the reader gone ends at once and the open with it.
An open decoder gets its two records and decodes the first message before the stream is handed
over. All calls up to there are the opener's own, so a crash in any of them is the end of the open.
-/

namespace RoutingDump

/-- The end of a run of attempts. -/
inductive Retried (σ : Type) where
  | opened (decoder : σ)
  | gaveUp
  | cancelled
  | crashed

/-- What the opener hands to the reader. A crash, whether of the factory or of a decoder, hands over
nothing. -/
inductive Handover (σ P : Type) where
  | stream (s : Stream σ P)
  | cannotOpen
  | nothing

namespace Opener

variable {ω σ P : Type}

/-- Attempts `attempt`, `attempt + 1`, … of which `left` are left. `gone i` says that the reader
is gone before the wait after attempt `i` has run its time. -/
def retry (F : Format ω σ P) (policy : RetryPolicy) (url : String) (gone : Nat → Bool) :
    (left attempt : Nat) → ω → Traced P (Retried σ × ω)
  | 0, _, w => { events := [.notice (.gaveUp url policy.attempts)], value := (.gaveUp, w) }
  | left + 1, attempt, w =>
    let call := F.attempt w
    let called := .attempt :: call.notices.map .notice
    match call.attempt with
    | .opened decoder =>
      { events := called ++ [.notice (.opened url attempt)]
        value := (.opened decoder, call.surroundings) }
    | .crashed => { events := called, value := (.crashed, call.surroundings) }
    | .failed error =>
      let failed := called ++ [.notice (.attemptFailed url attempt policy.attempts error)]
      match policy.backoff attempt with
      | none =>
        let ⟨events, value⟩ := retry F policy url gone left (attempt + 1) call.surroundings
        { events := failed ++ events, value := value }
      | some d =>
        if gone attempt then
          { events := failed ++ [.wait d, .notice (.openCancelled url)]
            value := (.cancelled, call.surroundings) }
        else
          let ⟨events, value⟩ := retry F policy url gone left (attempt + 1) call.surroundings
          { events := failed ++ .wait d :: events, value := value }

/-- Gives an open decoder its records and decodes the first message. A first message that cannot
be read leaves a stream that has failed. A crash takes the opener with it. -/
def seed (D : Decoder σ P) (resource : Resource) (decoder : σ) : Traced P (Handover σ P) :=
  match Buffer.allocate D resource decoder with
  | (.failed e, _) =>
    { events := [.notice (.allocationFailed resource.url e)], value := .cannotOpen }
  | (.crashed, _) => { events := [], value := .nothing }
  | (.made buffer, decoder) =>
    let stream : Stream σ P := { resource := resource, decoder := decoder, buffer := buffer }
    if D.crashesFirst decoder buffer.prefetch.record.clear then
      { events := stream.crash D, value := .nothing }
    else
      let ⟨events, outcome, stream⟩ := stream.prefetch D
      let failed : List (Event P) :=
        if outcome = .readError then
          [.notice (.firstPrefetchFailed (.readFailed resource.url))]
        else []
      { events := events ++ failed, value := .stream stream }

/-- The whole run of the opener. -/
def run (F : Format ω σ P) (policy : RetryPolicy) (resource : Resource) (gone : Nat → Bool)
    (w : ω) : Traced P (Handover σ P × ω) :=
  let ⟨events, retried, w⟩ := retry F policy resource.url gone policy.attempts 1 w
  match retried with
  | .opened decoder =>
    let ⟨later, handover⟩ := seed F.toDecoder resource decoder
    { events := events ++ later, value := (handover, w) }
  | .gaveUp | .cancelled => { events := events, value := (.cannotOpen, w) }
  | .crashed => { events := events, value := (.nothing, w) }

end Opener
end RoutingDump
