import RoutingDump.Ascii.Format
import RoutingDump.Proofs.Ascii.Decoding
import RoutingDump.Proofs.Medium.TextFile
import RoutingDump.Proofs.Opening.Log
import RoutingDump.Proofs.Reader.Opened

/-!
# Opening a dump of text

A dump that holds text is opened at the first attempt, and its decoder stands in front of all of
the text. Whatever factory and decoder have to say, they say it in the name of the format.
-/

namespace RoutingDump
namespace Ascii

/-- The decoder of a dump that nobody has read yet. -/
theorem stands_ofMedium {S : Type} [Medium S] {I : S → Prop} {medium : S} {text : List Char}
    (hsound : I medium) (hholds : Medium.Holds medium text) (resource : Resource)
    (filters : Filters) :
    Stands I (.of resource filters) (.ofMedium medium resource filters) [] text :=
  ⟨rfl, rfl, List.not_mem_nil, ⟨text, hholds, rfl⟩, hsound⟩

theorem openDump_of_holdsText {t : FileTree} {resource : Resource} (filters : Filters)
    {text : List Char} (h : t.HoldsText (pathOf resource.url) text) :
    ∃ f : OpenFile, f.Sound ∧ Medium.Holds f text ∧
      openDump t resource filters =
        .ok (.ofMedium f resource filters, [.asciiOpened resource.url]) := by
  obtain ⟨f, hopen, hsound, hholds⟩ := OpenFile.holds_openFile h
  refine ⟨f, hsound, hholds, ?_⟩
  unfold openDump
  rw [hopen]

theorem ready?_fileFormat {t : FileTree} {resource : Resource} (filters : Filters)
    (policy : RetryPolicy) {text : List Char} (h : t.HoldsText (pathOf resource.url) text) :
    ∃ f : OpenFile, f.Sound ∧ Medium.Holds f text ∧
      Opener.ready? (fileFormat resource filters) policy resource t =
        some (.ofMedium f resource filters) := by
  obtain ⟨f, hsound, hholds, hopen⟩ := openDump_of_holdsText filters h
  refine ⟨f, hsound, hholds, Opener.ready?_of_opened ?_ rfl rfl⟩
  simp only [fileFormat, hopen]

namespace Decoder

variable {S : Type}

theorem reporter_finishLine {d : Decoder S} {body : Body String} {a : Decoded (Decoder S) String}
    (h : d.finishLine body = .answer a) : ∀ n ∈ a.notices, n.reporter = .ascii := by
  unfold finishLine at h
  dsimp only at h
  split at h
  · cases h
  · split at h
    · cases h
    · cases h
      intro n hn
      dsimp only at hn
      split at hn
      · cases List.mem_singleton.mp hn
        rfl
      · cases hn

theorem reporter_failed {d : Decoder S} {body : Body String} {e : IoError}
    {a : Decoded (Decoder S) String} (h : d.failed body e = .answer a) :
    ∀ n ∈ a.notices, n.reporter = .ascii := by
  cases h
  intro n hn
  cases List.mem_singleton.mp hn
  rfl

variable [Medium S]

theorem reporter_round {d : Decoder S} {body : Body String} {a : Decoded (Decoder S) String}
    (h : d.round body = .answer a) : ∀ n ∈ a.notices, n.reporter = .ascii := by
  unfold round at h
  dsimp only at h
  split at h
  · exact reporter_failed h
  · exact reporter_failed h
  · exact reporter_failed h
  · split at h
    · cases h
      nofun
    · exact reporter_finishLine h

theorem reporter_answer (d : Decoder S) (body : Body String) :
    ∀ n ∈ (d.answer body).notices, n.reporter = .ascii := by
  fun_induction answer d body with
  | case1 d a hround => exact reporter_round hround
  | case2 d d' hround hfuel ih => exact ih

theorem reporter_decode (d : Decoder S) (body : Body String) :
    ∀ n ∈ (d.decode body).notices, n.reporter = .ascii := by
  unfold decode
  split
  · exact reporter_answer d body
  · nofun

end Decoder

theorem reporter_attempt {resource : Resource} {filters : Filters} (t : FileTree) :
    ∀ n ∈ ((fileFormat resource filters).attempt t).notices, n.reporter = .ascii := by
  intro n hn
  unfold fileFormat openDump at hn
  dsimp only at hn
  cases hfile : t.openFile (pathOf resource.url) with
  | error e =>
    rw [hfile] at hn
    cases hn
  | ok file =>
    rw [hfile] at hn
    cases List.mem_singleton.mp hn
    rfl

theorem discreet_fileFormat (resource : Resource) (filters : Filters) :
    (fileFormat resource filters).Discreet := by
  constructor
  case attempt =>
    intro t n hn
    rw [reporter_attempt t n hn]
    nofun
  case decode =>
    intro d record n hn
    rw [Decoder.reporter_decode d record.body n hn]
    nofun

end Ascii
end RoutingDump
