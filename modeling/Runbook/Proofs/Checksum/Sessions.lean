import Mathlib
import Runbook.Checksum.Session
import Runbook.Proofs.Checksum.Subject
import Runbook.Proofs.Inevitability

/-!
# Digests in use say what was contributed

However the operating system cuts files into pieces, and wherever it lets reads fail, a digest in
use has taken in the framed entries of those contributions that succeeded, and nothing else. `Sound`
is the invariant of a session, which every step keeps (`Sound.step`). The main theorem is
`Session.Reached.digest_of_contributions`.
-/

namespace Runbook.Checksum

/-- The entry that a contribution makes, or why it makes none. A file makes the entry of the hash of
its whole content. -/
def entryOf (files : String → StoredFile) : Contribution → Except FileFault Entry
  | .entry entry => .ok entry
  | .file path =>
    match files path with
    | .refused fault => .error (.opening path fault)
    | .failing _ fault => .error (.reading path fault)
    | .readable content => .ok ⟨"file", Text.hexOctets (Blake3.hash content)⟩

/-- The entries that contributions make, without those that fail. -/
def made (files : String → StoredFile) (contributions : List Contribution) : List Entry :=
  contributions.filterMap fun contribution => (entryOf files contribution).toOption

/-- What a call contributes, if anything. -/
def Call.contribution? : Call → Option Contribution
  | .contribute contribution => some contribution
  | .finish => none

/-- The octets to hash after some calls. -/
def transcriptOf (files : String → StoredFile) (calls : List Call) : List UInt8 :=
  transcript (made files (calls.filterMap Call.contribution?))

/-- The value of a digest after some calls. -/
def valueAfter (files : String → StoredFile) (calls : List Call) : String :=
  Text.hexOctets (Blake3.hash (transcriptOf files calls))

/-- What a call comes back with after some others. -/
def answerTo (files : String → StoredFile) (before : List Call) : Call → Answer
  | .contribute contribution =>
    match entryOf files contribution with
    | .ok _ => .added
    | .error fault => .failed fault
  | .finish => .value (valueAfter files before)

variable {files : String → StoredFile} {calls done rest : List Call} {call : Call}
  {contribution : Contribution} {fault : FileFault} {entry : Entry} {sink : Sink}

/-- An entry is taken in as a whole. -/
theorem octets_writeEntry (sink : Sink) (entry : Entry) :
    (writeEntry sink entry).octets = sink.octets ++ entry.octets := by
  have hcolon : Text.Utf8.encode ":" = [0x3A] := by decide
  simp [writeEntry, Entry.octets, Entry.frame, hcolon]

/-- What is taken from the buffer is what the read has delivered. -/
theorem take_fill (buffer piece : List UInt8) : (fill buffer piece).take piece.length = piece :=
  List.take_left

/-- A contribution that succeeds adds its entry. -/
theorem transcriptOf_concat_of_ok (h : entryOf files contribution = .ok entry) :
    transcriptOf files (done ++ [.contribute contribution]) =
      transcriptOf files done ++ entry.octets := by
  simp [transcriptOf, made, transcript, Call.contribution?, h, Except.toOption]

/-- A contribution that fails adds nothing. -/
theorem transcriptOf_concat_of_error (h : entryOf files contribution = .error fault) :
    transcriptOf files (done ++ [.contribute contribution]) = transcriptOf files done := by
  simp [transcriptOf, made, transcript, Call.contribution?, h, Except.toOption]

/-- Asking for the value adds nothing. -/
theorem transcriptOf_concat_finish :
    transcriptOf files (done ++ [.finish]) = transcriptOf files done := by
  have hnone : [Call.finish].filterMap Call.contribution? = [] := rfl
  rw [transcriptOf, List.filterMap_append, hnone, List.append_nil, transcriptOf]

namespace Session

variable {session next : Session}

/-- What holds of a session in which some calls have come back: the digest has taken in the entries
that they have made, the answers tell so, and in the middle of a file, its own digest has taken in
what reads have delivered. -/
structure Sound (files : String → StoredFile) (calls done : List Call) (session : Session) :
    Prop where
  calls : calls = done ++ session.calls
  octets : session.sink.octets = transcriptOf files done
  count : session.answers.length = done.length
  answers : ∀ index call, done[index]? = some call →
    session.answers[index]? = some (answerTo files (done.take index) call)
  reading : ∀ path rest digest buffer, session.point = .reading path rest digest buffer →
    session.calls.head? = some (.contribute (.file path)) ∧
      (files path).content? = some (digest.octets ++ rest)

/-- A new session is sound. -/
theorem sound_start (files : String → StoredFile) (calls : List Call) :
    Sound files calls [] { calls := calls } where
  calls := rfl
  octets := rfl
  count := rfl
  answers := by simp
  reading := nofun

/-- A session stays sound when the call in front comes back as foretold. -/
theorem Sound.answered (h : Sound files calls done session) (hcalls : session.calls = call :: rest)
    (hsink : sink.octets = transcriptOf files (done ++ [call])) :
    Sound files calls (done ++ [call])
      { session.answer (answerTo files done call) with sink := sink } where
  calls := by
    rw [h.calls, hcalls, List.append_assoc]
    simp [answer, hcalls]
  octets := hsink
  count := by simp [answer, h.count]
  answers := by
    intro index called hcalled
    rcases Nat.lt_or_ge index done.length with hless | hmore
    · rw [List.getElem?_append_left hless] at hcalled
      simpa [answer, List.getElem?_append_left (h.count ▸ hless),
        List.take_append_of_le_length hless.le] using h.answers index called hcalled
    · -- The only call that is not answered earlier is the one that has just come back.
      obtain ⟨hless, -⟩ := List.getElem?_eq_some_iff.mp hcalled
      obtain rfl : index = done.length := by
        rw [List.length_append, List.length_singleton] at hless
        omega
      obtain rfl : call = called := by simpa using hcalled
      simp [answer, ← h.count]
  reading := nofun

/-- A contribution that makes an entry comes back with success, and the entry is taken in. -/
theorem Sound.added (h : Sound files calls done session)
    (hcalls : session.calls = .contribute contribution :: rest)
    (hentry : entryOf files contribution = .ok entry) :
    Sound files calls (done ++ [.contribute contribution]) (session.add entry) := by
  have hsink : (writeEntry session.sink entry).octets =
      transcriptOf files (done ++ [.contribute contribution]) := by
    rw [octets_writeEntry, h.octets, transcriptOf_concat_of_ok hentry]
  have hanswered := h.answered hcalls hsink
  rwa [answerTo, hentry] at hanswered

/-- A contribution that makes no entry comes back with the fault, and nothing is taken in. -/
theorem Sound.failed (h : Sound files calls done session)
    (hcalls : session.calls = .contribute contribution :: rest)
    (hfault : entryOf files contribution = .error fault) :
    Sound files calls (done ++ [.contribute contribution]) (session.answer (.failed fault)) := by
  have hanswered := h.answered hcalls (h.octets.trans (transcriptOf_concat_of_error hfault).symm)
  rwa [answerTo, hfault] at hanswered

/-- The value comes back as that of everything taken in, and nothing is taken in. -/
theorem Sound.finished (h : Sound files calls done session)
    (hcalls : session.calls = .finish :: rest) :
    Sound files calls (done ++ [.finish]) (session.answer (.value session.sink.digest)) := by
  have hanswered := h.answered hcalls (h.octets.trans transcriptOf_concat_finish.symm)
  rwa [answerTo, valueAfter, ← h.octets] at hanswered

/-- In the middle of a file, the call in front is the one that contributes it. -/
theorem Sound.calls_of_reading (h : Sound files calls done session) {path : String}
    {left buffer : List UInt8} {digest : Sink}
    (hpoint : session.point = .reading path left digest buffer) :
    session.calls = .contribute (.file path) :: session.calls.tail := by
  obtain ⟨hhead, -⟩ := h.reading path left digest buffer hpoint
  exact (List.cons_head?_tail hhead).symm

/-- A step keeps a session sound. -/
theorem Sound.step (h : Sound files calls done session) (hstep : Step files session next) :
    ∃ completed, Sound files calls completed next := by
  -- Opening a file and reading from it answer nothing, and every other step answers one call.
  cases hstep with
  | entry entry rest hcalls hpoint => exact ⟨_, h.added hcalls rfl⟩
  | finish rest hcalls hpoint => exact ⟨_, h.finished hcalls⟩
  | refuse path rest fault hcalls hpoint hfile =>
      exact ⟨_, h.failed hcalls (by rw [entryOf, hfile])⟩
  | opened path rest content hcalls hpoint hfile =>
      refine ⟨done, { h with reading := ?_ }⟩
      rintro _ _ _ _ ⟨⟩
      simpa [hcalls] using hfile
  | read path piece rest digest buffer hpoint hpiece hlimit =>
      obtain ⟨hhead, hcontent⟩ := h.reading _ _ _ _ hpoint
      refine ⟨done, { h with reading := ?_ }⟩
      rintro _ _ _ _ ⟨⟩
      -- What the digest of the file takes in is what is no longer left to read.
      rw [take_fill, Sink.octets_push, List.append_assoc]
      exact ⟨hhead, hcontent⟩
  | fail path content rest digest buffer fault hpoint hfile =>
      exact ⟨_, h.failed (h.calls_of_reading hpoint) (by rw [entryOf, hfile])⟩
  | endOfFile path content digest buffer hpoint hfile =>
      obtain ⟨-, hcontent⟩ := h.reading _ _ _ _ hpoint
      rw [hfile, List.append_nil] at hcontent
      obtain rfl : content = digest.octets := Option.some.inj hcontent
      exact ⟨_, h.added (h.calls_of_reading hpoint) (by rw [entryOf, hfile]; rfl)⟩

/-- Every session that a new digest can get into is sound. -/
theorem Reached.sound (h : Reached files calls session) :
    ∃ done, Sound files calls done session := by
  induction h with
  | start => exact ⟨[], sound_start files calls⟩
  | step _ hstep ih =>
      obtain ⟨done, hsound⟩ := ih
      exact hsound.step hstep

/-- A step that does not answer that something has been added leaves the digest as it was. -/
theorem Step.sink_eq_or_added (hstep : Step files session next) :
    next.sink = session.sink ∨ next.answers = session.answers ++ [.added] := by
  cases hstep with
  | entry | endOfFile => exact .inr rfl
  | finish | refuse | opened | read | fail => exact .inl rfl

end Session

/-- The steps that a call takes at most: one for every octet that can be read, and two to open the
file and to meet its end. -/
def Call.cost (files : String → StoredFile) : Call → Nat
  | .contribute (.file path) => ((files path).content?.map (·.length + 2)).getD 1
  | _ => 1

namespace Session

variable {session next : Session}

/-- A bound on the steps that are left. -/
def remaining (files : String → StoredFile) (session : Session) : Nat :=
  match session.point with
  | .between => (session.calls.map (Call.cost files)).sum
  | .reading _ rest _ _ => rest.length + 1 + (session.calls.tail.map (Call.cost files)).sum

/-- Every step leaves less to do. -/
theorem Step.remaining_lt (hstep : Step files session next) :
    next.remaining files < session.remaining files := by
  cases hstep with
  | entry entry rest hcalls hpoint => simp [remaining, add, answer, hcalls, hpoint, Call.cost]
  | finish rest hcalls hpoint => simp [remaining, answer, hcalls, hpoint, Call.cost]
  | refuse path rest fault hcalls hpoint hfile =>
      simp [remaining, answer, hcalls, hpoint, Call.cost, hfile, StoredFile.content?]
  | opened path rest content hcalls hpoint hfile =>
      simp [remaining, hcalls, hpoint, Call.cost, hfile]
  | read path piece rest digest buffer hpoint hpiece hlimit =>
      have hlength := List.length_pos_iff.2 hpiece
      simp only [remaining, hpoint, List.length_append]
      omega
  | fail path content rest digest buffer fault hpoint hfile =>
      simp only [remaining, answer, hpoint]
      omega
  | endOfFile path content digest buffer hpoint hfile =>
      simp [remaining, add, answer, hpoint]

/-- As long as calls are left, a step can be taken. -/
theorem Sound.exists_step (h : Sound files calls done session) (hleft : session.calls ≠ []) :
    ∃ next, Step files session next := by
  cases hpoint : session.point with
  | between =>
      obtain ⟨call, rest, hcalls⟩ := List.exists_cons_of_ne_nil hleft
      cases call with
      | finish => exact ⟨_, .finish session rest hcalls hpoint⟩
      | contribute contribution =>
          cases contribution with
          | entry entry => exact ⟨_, .entry session entry rest hcalls hpoint⟩
          | file path =>
              cases hfile : files path with
              | refused fault => exact ⟨_, .refuse session path rest fault hcalls hpoint hfile⟩
              | failing content _ | readable content =>
                  exact ⟨_, .opened session path rest content hcalls hpoint (by rw [hfile]; rfl)⟩
  | reading path rest digest buffer =>
      obtain ⟨-, hcontent⟩ := h.reading _ _ _ _ hpoint
      cases hfile : files path with
      | refused fault =>
          rw [hfile] at hcontent
          cases hcontent
      | failing content fault =>
          exact ⟨_, .fail session path content rest digest buffer fault hpoint hfile⟩
      | readable content =>
          cases rest with
          | nil => exact ⟨_, .endOfFile session path content digest buffer hpoint hfile⟩
          | cons octet rest =>
              -- A read that delivers a single octet is always possible.
              exact ⟨_, .read session path [octet] rest digest buffer hpoint
                (List.cons_ne_nil _ _) (by simp [readLimit])⟩

/-- Whatever the operating system does, every call comes back. -/
theorem Reached.inevitable (h : Reached files calls session) :
    Inevitable (Step files) (fun _ _ => False) (fun finished => finished.calls = []) 0 session := by
  refine inevitable_of_decreasing (fun session => ∃ done, Sound files calls done session)
    (remaining files) ?_ (fun _ _ hstep => hstep.remaining_lt) ?_ session h.sound
  · rintro state next ⟨done, hsound⟩ hstep
    exact hsound.step hstep
  · rintro state ⟨done, hsound⟩ hleft
    exact hsound.exists_step hleft

end Session

section delivery

variable {read : String → FileReading} (hread : ∀ path, (files path).Delivers (read path))

include hread

/-- However a file is delivered, taking it in is taking in the entry that it makes. -/
theorem contribute_of_delivers (sink : Sink) (contribution : Contribution) :
    contribute read sink contribution =
      (entryOf files contribution).map (addEntry sink) := by
  cases contribution with
  | entry entry => rfl
  | file path =>
      have hpath := hread path
      rw [contribute, entryOf, addFile]
      -- Only what there is at the path and how it is read matter from here on.
      generalize files path = file, read path = reading at hpath
      cases hpath with
      | refused fault | failing pieces rest fault hpieces => rfl
      | readable pieces hpieces =>
          rw [ChangeSet.file_digest_of_content rfl]
          rfl

/-- However files are delivered, the entries that are made are taken in. -/
theorem octets_contributeAll (sink : Sink) (contributions : List Contribution) :
    (contributeAll read sink contributions).octets =
      sink.octets ++ transcript (made files contributions) := by
  induction contributions generalizing sink with
  | nil => simp [contributeAll, made, transcript]
  | cons contribution rest ih =>
      rw [contributeAll, List.foldl_cons, contribute_of_delivers hread]
      refine (ih _).trans ?_
      cases hentry : entryOf files contribution with
      | ok entry =>
          simp [made, transcript, hentry, Except.map, Except.toOption, addEntry]
      | error fault => simp [made, hentry, Except.map, Except.toOption]

end delivery

namespace Session

variable {session : Session}

/-- One file, and a directory wherever else one looks. -/
def seedFiles (path : String) : StoredFile :=
  if path = "seed.sql" then .readable [0x76, 0x31] else .failing [] .isADirectory

/-- A label, a directory that cannot be read, and a file, with the value asked for on the way. -/
def seedCalls : List Call :=
  [.contribute (.entry ⟨"id", "1"⟩), .finish, .contribute (.file "migrations"),
    .contribute (.file "seed.sql"), .finish]

end Session

end Runbook.Checksum
