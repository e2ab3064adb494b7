import RoutingDump.Proofs.Ascii.TextDump
import RoutingDump.Proofs.Reader.Live

/-!
# Tailing a live dump

Somebody writes to a dump while a reader pulls from it. The reader is behind in three places: a
record waits in its buffer, its decoder has begun a line, and its medium holds text that it has not
read. Together with the records handed out these make up what was written at any moment, so nothing
is lost and nothing comes twice. A line counts as soon as its line feed is written.
-/

namespace RoutingDump
namespace Ascii

open Text (Utf8.encode)

/-- What happens to an open dump: a pull, or somebody writes behind its end. -/
inductive Turn where
  | pull
  | write (chunk : List Char)

def written (ts : List Turn) : List Char :=
  ts.flatMap fun
    | .pull => []
    | .write chunk => chunk

section Turns

variable {ω S : Type} [Medium S]

def Decoder.grow {S : Type} (grow : List UInt8 → S → S) (chunk : List Char) (d : Decoder S) :
    Decoder S :=
  { d with medium := grow (Utf8.encode chunk) d.medium }

/-- Turns one after the other: what the pulls among them give, and the reader after them. -/
def turns (F : Format ω (Decoder S) String) (grow : List UInt8 → S → S)
    (r : Reader ω (Decoder S) String) :
    List Turn → List (Pull String) × Reader ω (Decoder S) String
  | [] => ([], r)
  | .pull :: ts =>
    let (pull, r) := (r.next F).value
    let (pulls, r) := turns F grow r ts
    (pull :: pulls, r)
  | .write chunk :: ts => turns F grow (r.disturb id (Decoder.grow grow chunk)) ts

end Turns

/-- Writes to a medium come behind what it holds, as long as `I` holds of it. -/
structure Growing {S : Type} [Medium S] (I : S → Prop) (grow : List UInt8 → S → S) : Prop where
  preserved : Medium.Preserved I
  sound : ∀ s bytes, I s → I (grow bytes s)
  holds : ∀ s text chunk, I s → Medium.Holds s text →
    Medium.Holds (grow (Utf8.encode chunk) s) (text ++ chunk)

theorem growing_openFile : Growing OpenFile.Sound OpenFile.grow where
  preserved := OpenFile.sound_preserved
  sound _ bytes h := OpenFile.sound_grow h bytes
  holds _ _ chunk h hholds := OpenFile.holds_grow h hholds chunk

/-- The records that a live dump delivers once all of the text has been read. -/
def tailRecords (interval : Option TimeInterval) (origin : Origin) (text : List Char) :
    List (Record String) :=
  (reports (findings interval (wholeLines text))).map (Record.mk origin)

section Follow

variable {S : Type} [Medium S] {I : S → Prop} {task : Task} {origin : Origin}

/-- The stream follows a dump to which `text` was written in all, and has handed out `delivered`.
The findings `done` are taken in, and `rest` is open. -/
structure Follows (I : S → Prop) (task : Task) (origin : Origin) (text : List Char)
    (delivered : List (Record String)) (l : Lookahead (Decoder S) String) (done : List Finding)
    (rest : List Char) : Prop where
  stands : Stands I task l.decoder done rest
  active : l.state = .active
  findings_eq :
    findings task.interval (wholeLines text) = done ++ findings task.interval (wholeLines rest)
  openRest_eq : openRest rest = openRest text
  delivered_eq :
    (reports done).map (Record.mk origin) = delivered ++ l.waiting.toList.map (Record.mk origin)

variable {text rest : List Char} {delivered : List (Record String)} {done : List Finding}
  {l : Lookahead (Decoder S) String}

theorem Follows.prefix_delivered (h : Follows I task origin text delivered l done rest) :
    delivered <+: tailRecords task.interval origin text := by
  have hdone : (reports done).map (Record.mk origin) <+: tailRecords task.interval origin text := by
    rw [tailRecords, h.findings_eq]
    exact (prefix_reports_append done _).map _
  rw [h.delivered_eq] at hdone
  exact (List.prefix_append _ _).trans hdone

/-- Writing joins the open rest, which is the same for the decoder and for the whole text. -/
theorem Follows.write {grow : List UInt8 → S → S} (hgrow : Growing I grow)
    (h : Follows I task origin text delivered l done rest) (chunk : List Char) :
    Follows I task origin (text ++ chunk) delivered
      { l with decoder := l.decoder.grow grow chunk } done (rest ++ chunk) := by
  obtain ⟨unread, hholds, hrest⟩ := h.stands.text_eq
  have hsound := h.stands.sound
  refine ⟨⟨h.stands.task_eq, h.stands.tally_eq, h.stands.begun, ⟨unread ++ chunk, ?_, ?_⟩, ?_⟩,
    h.active, ?_, ?_, h.delivered_eq⟩
  · exact hgrow.holds _ _ chunk hsound hholds
  · rw [hrest, List.append_assoc]
    rfl
  · exact hgrow.sound _ _ hsound
  -- Both texts end in the same open rest, so the chunk completes the same lines in both.
  · rw [wholeLines_append text, wholeLines_append rest, findings_append, findings_append,
      h.findings_eq, h.openRest_eq, List.append_assoc]
  · rw [openRest_append, openRest_append text, h.openRest_eq]

/-- The answer to a decoder of a live dump: the next record waits, or all is delivered. -/
theorem follows_absorb (hI : Medium.Preserved I) (hlive : task.live = true)
    (hstands : Stands I task l.decoder done rest) (hactive : l.state = .active)
    (hfindings :
      findings task.interval (wholeLines text) = done ++ findings task.interval (wholeLines rest))
    (hopen : openRest rest = openRest text)
    (hdelivered : (reports done).map (Record.mk origin) = delivered) :
    let next := l.absorb true (l.decoder.answer .blank)
    (∃ done' rest', Follows I task origin text delivered next done' rest') ∧
      (next.waiting = none → delivered = tailRecords task.interval origin text) := by
  obtain ⟨gs, rest', hans⟩ := hstands.answers hI
  have hall : findings task.interval (wholeLines text) =
      done ++ gs ++ findings task.interval (wholeLines rest') := by
    have heq := hans.findings_eq
    rw [hlive, lines_live, lines_live] at heq
    rw [hfindings, heq, List.append_assoc]
  have hopen' : openRest rest' = openRest text := (hans.openRest_eq hlive).trans hopen
  have hstate := Lookahead.state_absorb_live hactive hans.ne_readError
  have hwaiting : (l.absorb true (l.decoder.answer .blank)).waiting = _ :=
    Decoded.offer_live hans.ne_readError
  dsimp only
  cases hends : (l.decoder.answer .blank).outcome.endsDump with
  | false =>
    rw [hends] at hwaiting
    refine ⟨⟨done ++ gs, rest', hans.stands, hstate, hall, hopen', ?_⟩, fun hnone => ?_⟩
    · rw [hans.reported hends, List.map_append, hdelivered, hwaiting]
      rfl
    · rw [hwaiting] at hnone
      cases hnone
  | true =>
    obtain ⟨hnone, hsame, -⟩ := hans.ended hends
    rw [hends] at hwaiting
    refine ⟨⟨done ++ gs, rest', hans.stands, hstate, hall, hopen', ?_⟩, fun _ => ?_⟩
    · rw [hsame, hdelivered, hwaiting]
      exact (List.append_nil _).symm
    · rw [hlive, lines_live] at hnone
      rw [tailRecords, hall, hnone, findings, List.filterMap_nil, List.append_nil, hsame,
        hdelivered]

/-- A pull hands out what waits and takes in the next answer. -/
theorem Follows.pull_eq {resource : Resource} (hI : Medium.Preserved I)
    (hresource : resource.isLive = true) (haccepted : task.accepted = true)
    (h : Follows I task resource.origin text delivered l done rest) :
    l.pull (decoder S) resource =
      (match l.waiting with
        | some body => .ok ⟨resource.origin, body⟩
        | none => .again, l.absorb true (l.decoder.answer .blank)) := by
  obtain ⟨gs, rest', hans⟩ := h.stands.answers hI
  have hanswer : l.answer (decoder S) resource = l.decoder.answer .blank :=
    h.stands.decode_eq haccepted resource.origin
  have hstate := Lookahead.state_absorb_live h.active hans.ne_readError
  rw [Lookahead.pull_of_active h.active, hanswer, hresource]
  dsimp only
  rw [if_neg hans.ne_readError, hstate]
  cases l.waiting with
  | none => simp [Decoded.marksEnd, Lookahead.result, hresource]
  | some body => simp [Decoded.marksEnd, Lookahead.result]

end Follow

section Tail

variable {ω S : Type} [Medium S] {I : S → Prop} {resource : Resource} {filters : Filters}
  {text : List Char} {delivered : List (Record String)}

/-- An open stream that follows a dump. -/
structure Tails (I : S → Prop) (resource : Resource) (filters : Filters) (text : List Char)
    (delivered : List (Record String)) (s : Stream (Decoder S) String) : Prop where
  resource_eq : s.resource = resource
  stamped : s.Stamped
  follows : ∃ done rest,
    Follows I (.of resource filters) resource.origin text delivered s.lookahead done rest

theorem Tails.advance (hI : Medium.Preserved I) (hlive : resource.isLive = true)
    (haccepts : filters.acceptsResource resource = true) {s : Stream (Decoder S) String}
    (h : Tails I resource filters text delivered s) :
    let next := (s.advance (decoder S)).value
    (next.1 = .again ∧ s.lookahead.waiting = none ∨ ∃ record, next.1 = .ok record) ∧
      Tails I resource filters text (delivered ++ next.1.record?.toList) next.2 ∧
      (next.2.lookahead.waiting = none →
        delivered ++ next.1.record?.toList =
          tailRecords filters.interval resource.origin text) := by
  obtain ⟨done, rest, hfollows⟩ := h.follows
  obtain ⟨hpull, hnext⟩ := Stream.lookahead_advance (D := decoder S) h.stamped
  rw [h.resource_eq, hfollows.pull_eq hI hlive haccepts] at hpull hnext
  have hhanded : (s.advance (decoder S)).value.1.record?.toList =
      s.lookahead.waiting.toList.map (Record.mk resource.origin) := by
    rw [hpull]
    cases s.lookahead.waiting <;> rfl
  have habsorb := follows_absorb hI hlive hfollows.stands hfollows.active hfollows.findings_eq
    hfollows.openRest_eq hfollows.delivered_eq
  dsimp only at hpull hnext habsorb ⊢
  rw [← hnext, ← hhanded] at habsorb
  refine ⟨?_, ⟨?_, Stream.stamped_advance h.stamped, habsorb.1⟩, habsorb.2⟩
  · rw [hpull]
    cases s.lookahead.waiting with
    | none => exact .inl ⟨rfl, rfl⟩
    | some body => exact .inr ⟨_, rfl⟩
  · rw [Stream.resource_advance h.stamped, h.resource_eq]

theorem Tails.write {grow : List UInt8 → S → S} (hgrow : Growing I grow)
    {s : Stream (Decoder S) String} (h : Tails I resource filters text delivered s)
    (chunk : List Char) :
    Tails I resource filters (text ++ chunk) delivered
      { s with decoder := s.decoder.grow grow chunk } := by
  obtain ⟨done, rest, hfollows⟩ := h.follows
  exact ⟨h.resource_eq, h.stamped, done, rest ++ chunk, hfollows.write hgrow chunk⟩

variable {F : Format ω (Decoder S) String} {grow : List UInt8 → S → S}

omit [Medium S] in
theorem turns_pull (r : Reader ω (Decoder S) String) (ts : List Turn) :
    turns F grow r (.pull :: ts) =
      ((r.next F).value.1 :: (turns F grow (r.next F).value.2 ts).1,
        (turns F grow (r.next F).value.2 ts).2) := rfl

omit [Medium S] in
theorem turns_write (r : Reader ω (Decoder S) String) (chunk : List Char) (ts : List Turn) :
    turns F grow r (.write chunk :: ts) =
      turns F grow (r.disturb id (Decoder.grow grow chunk)) ts := rfl

theorem filterMap_record? (p : Pull String) (ps : List (Pull String)) :
    (p :: ps).filterMap Pull.record? = p.record?.toList ++ ps.filterMap Pull.record? := by
  rw [List.filterMap_cons]
  cases p.record? <;> rfl

/-- The induction is on the turns, over every text and every delivery they start from. -/
theorem Tails.turns (hF : F.toDecoder = decoder S) (hgrow : Growing I grow)
    (hlive : resource.isLive = true) (haccepts : filters.acceptsResource resource = true)
    (ts : List Turn) {r : Reader ω (Decoder S) String} {s : Stream (Decoder S) String}
    (hphase : r.phase = .streaming s) (h : Tails I resource filters text delivered s) :
    let run := turns F grow r ts
    (∀ p ∈ run.1, p = .again ∨ ∃ record, p = .ok record) ∧
      ∃ s', run.2.phase = .streaming s' ∧
        Tails I resource filters (text ++ written ts)
          (delivered ++ run.1.filterMap Pull.record?) s' := by
  induction ts generalizing r s text delivered with
  | nil =>
    refine ⟨fun p hp => absurd hp List.not_mem_nil, s, hphase, ?_⟩
    rw [written, List.flatMap_nil, List.append_nil]
    exact (List.append_nil delivered).symm ▸ h
  | cons t ts ih =>
    cases t with
    | pull =>
      obtain ⟨hgives, hnext, -⟩ := h.advance hgrow.preserved hlive haccepts
      have hreader := Reader.next_streaming (F := F) hphase
      rw [hF] at hreader
      have hphase' : (r.next F).value.2.phase =
          .streaming (s.advance (decoder S)).value.2 := by rw [hreader]
      have hpull : (r.next F).value.1 = (s.advance (decoder S)).value.1 := by rw [hreader]
      obtain ⟨hall, s', hstreaming, htails⟩ := ih hphase' hnext
      rw [turns_pull]
      refine ⟨fun p hp => ?_, s', hstreaming, ?_⟩
      · rcases List.mem_cons.mp hp with rfl | hp
        · rw [hpull]
          exact hgives.imp And.left id
        · exact hall p hp
      · rw [filterMap_record?, hpull, ← List.append_assoc]
        exact htails
    | write chunk =>
      have hphase' := congrArg Reader.phase
        (Reader.disturb_streaming hphase id (Decoder.grow grow chunk))
      rw [turns_write]
      have hwritten : text ++ written (.write chunk :: ts) = text ++ chunk ++ written ts := by
        rw [written, List.flatMap_cons, List.append_assoc]
        rfl
      rw [hwritten]
      exact ih hphase' (h.write hgrow chunk)

/-- Two pulls in a row that find nothing have found everything that was written before. -/
theorem Tails.caught_up (hF : F.toDecoder = decoder S) (hI : Medium.Preserved I)
    (hlive : resource.isLive = true) (haccepts : filters.acceptsResource resource = true)
    {r : Reader ω (Decoder S) String} {s : Stream (Decoder S) String}
    (hphase : r.phase = .streaming s) (h : Tails I resource filters text delivered s)
    (hfirst : (r.next F).value.1 = .again)
    (hsecond : ((r.next F).value.2.next F).value.1 = .again) :
    delivered = tailRecords filters.interval resource.origin text := by
  obtain ⟨-, hnext, hall⟩ := h.advance hI hlive haccepts
  obtain ⟨hgives, -, -⟩ := hnext.advance hI hlive haccepts
  have hreader := Reader.next_streaming (F := F) hphase
  rw [hF] at hreader
  rw [hreader] at hfirst hsecond
  have hreader' := Reader.next_streaming (F := F)
    (r := { r with phase := .streaming (s.advance (decoder S)).value.2 }) rfl
  rw [hF] at hreader'
  rw [hreader'] at hsecond
  dsimp only at hfirst hsecond
  -- Nothing was handed out by the first pull, and nothing waits behind it.
  rw [hfirst] at hall
  rcases hgives with ⟨-, hnone⟩ | ⟨record, hrecord⟩
  · exact (List.append_nil delivered).symm.trans (hall hnone)
  · rw [hrecord] at hsecond
    cases hsecond

/-- A fresh stream has taken in the first answer of its decoder and handed out nothing. -/
theorem tails_fresh {medium : S} {s : Stream (Decoder S) String} (hI : Medium.Preserved I)
    (hlive : resource.isLive = true) (haccepts : filters.acceptsResource resource = true)
    (hsound : I medium) (hholds : Medium.Holds medium text)
    (hfresh : s.Fresh (decoder S) resource (.ofMedium medium resource filters)) :
    Tails I resource filters text [] s := by
  have hstands := stands_ofMedium hsound hholds resource filters
  refine ⟨hfresh.resource_eq, hfresh.stamped, ?_⟩
  have hanswer : (decoder S).answer resource.origin (.ofMedium medium resource filters) 0 =
      (Decoder.ofMedium medium resource filters).answer .blank :=
    hstands.decode_eq haccepts resource.origin
  rw [hfresh.lookahead_eq, Lookahead.opened, hanswer, hlive]
  exact (follows_absorb (l := { decoder := .ofMedium medium resource filters }) hI hlive hstands
    rfl rfl rfl rfl).1

end Tail

end Ascii

namespace Reader

open Ascii

/-- What the pulls among `ts` give of the records `all` that are there after them. -/
structure KeepsUp {ω S : Type} (F : Format ω (Ascii.Decoder S) String)
    (grow : List UInt8 → S → S) (r : Reader ω (Ascii.Decoder S) String) (ts : List Turn)
    (all : List (Record String)) : Prop where
  gives : ∀ p ∈ (turns F grow r ts).1, p = .again ∨ ∃ record, p = .ok record
  in_order : (turns F grow r ts).1.filterMap Pull.record? <+: all
  /-- Two pulls in a row find nothing only if all of the records are handed out. -/
  caught_up :
    let r' := (turns F grow r ts).2
    (r'.next F).value.1 = .again → ((r'.next F).value.2.next F).value.1 = .again →
      (turns F grow r ts).1.filterMap Pull.record? = all

/-- Whatever the order in which somebody writes and a reader pulls: the pulls hand out the records
that the whole lines written so far come to, each once and in order. -/
theorem live_tailing {t : FileTree} {resource : Resource} {filters : Filters}
    {policy : RetryPolicy} {text : List Char} (hlive : resource.isLive = true)
    (haccepts : filters.acceptsResource resource = true)
    (hfile : t.HoldsText (pathOf resource.url) text) (ts : List Turn) :
    let F := fileFormat resource filters
    let opened := ((start resource policy t).openWait F).value
    opened.1 = .ok () ∧
      KeepsUp F OpenFile.grow opened.2 ts
        (tailRecords filters.interval resource.origin (text ++ written ts)) := by
  obtain ⟨f, hsound, hholds, hready⟩ := ready?_fileFormat filters policy hfile
  obtain ⟨s, hresolve, hfresh, -⟩ := resolve_ready hready
  have hgrow := growing_openFile
  have htails : Tails OpenFile.Sound resource filters text [] s :=
    tails_fresh hgrow.preserved hlive haccepts hsound hholds hfresh
  have hopened := (openWait_eq (F := fileFormat resource filters) (start resource policy t)).2
  have hphase : ((start resource policy t).openWait (fileFormat resource filters)).value.2.phase =
      .streaming s := by
    rw [hopened, hresolve]
  obtain ⟨hall, s', hstreaming, hs'⟩ :=
    htails.turns (F := fileFormat resource filters) rfl hgrow hlive haccepts ts hphase
  obtain ⟨done, rest, hfollows⟩ := hs'.follows
  refine ⟨openWait_ok_iff.mpr ⟨_, hready⟩, hall, hfollows.prefix_delivered, ?_⟩
  intro r' hfirst hsecond
  exact hs'.caught_up rfl hgrow.preserved hlive haccepts hstreaming hfirst hsecond

/-- A line that is written in two pieces, with a line that is still open behind it. Whoever appends
to the path of the file writes behind the end of the file that is open. -/
theorem live_tailing_split_line :
    let resource : Resource :=
      { url := "feed", project := "p", collector := "c", recordType := .updates, initialTime := 0
        extent := .forever }
    let bytes := (Text.Utf8.encode "10|a\n20|".toList).toArray
    let t := (FileTree.empty 0).add 0 "feed" (.file bytes 0)
    let file : OpenFile := { tree := t, place := some 1 }
    let F := fileFormat resource {}
    let ts : List Turn := [.pull, .pull, .write "b\n30|c".toList, .pull, .pull]
    KeepsUp F OpenFile.grow ((start resource {} t).openWait F).value.2 ts
        [⟨resource.origin, { sec := 10, payload := some "a" }⟩,
          ⟨resource.origin, { position := .middle, sec := 20, payload := some "b" }⟩] ∧
      t.openFile (pathOf "feed") = .ok file ∧
      ∀ more t', t.append (pathOf "feed") more = .ok t' →
        file.grow more = { file with tree := t' } := by
  intro resource bytes t file F ts
  have hlive : resource.isLive = true := rfl
  have haccepts : ({} : Filters).acceptsResource resource = true := rfl
  have hpath : t.resolveString (pathOf "feed") = .ok 1 := rfl
  have hfile : t.HoldsText (pathOf resource.url) "10|a\n20|".toList :=
    ⟨1, bytes, 0, hpath, rfl, rfl⟩
  have hopen : t.openFile (pathOf "feed") = .ok file := by
    rw [FileTree.openFile, hpath]
    rfl
  have hsound : file.Sound := ⟨1, bytes, 0, rfl, rfl, Nat.zero_le _⟩
  exact ⟨(live_tailing hlive haccepts hfile ts).2, hopen, fun more t' happend =>
    OpenFile.grow_of_append hsound rfl hpath happend⟩

end Reader
end RoutingDump
