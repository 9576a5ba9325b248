import Runbook.ChangeSet.History
import Runbook.Proofs.Checksum.Subject
import Runbook.Proofs.Chronicle

/-!
# Stored checksums in the history of a change set

A change set can be edited, the files around it can change, and its checksum can be asked for, in
any order. What a request comes back with depends on the identity, the command and the content of
the files at that time (`answer_eq`), and all that it can leave behind is a stored checksum
(`History.after_request`). So the stored checksum is the latest value that came back, and a request
that fails is as if it had not been made. The main theorem is `History.checksum_of_history`.
-/

namespace Runbook

/-- Why a file cannot be read to its end, if so. -/
def FileReading.fault? (path : String) : FileReading → Option FileFault
  | .refused fault => some (.opening path fault)
  | .opened _ fault => fault.map (.reading path)

/-- A file has a fault exactly if its content cannot be read. -/
theorem FileReading.fault_eq_none_iff (path : String) {reading : FileReading} :
    reading.fault? path = none ↔ reading.content?.isSome = true := by
  cases reading with
  | refused fault => simp [fault?, content?]
  | opened pieces fault => cases fault <;> simp [fault?, content?]

/-- A file with a fault has no content. -/
theorem FileReading.content_eq_none_of_fault {path : String} {reading : FileReading}
    {fault : FileFault} (h : reading.fault? path = some fault) : reading.content? = none := by
  rw [← Option.not_isSome_iff_eq_none, ← fault_eq_none_iff path, h]
  simp

/-- The first message of a fault quotes the path of the file. -/
theorem FileReading.chain_of_fault {path : String} {reading : FileReading} {fault : FileFault}
    (h : reading.fault? path = some fault) :
    ∃ reason : OsError,
      fault.chain = ["opening file for checksum: " ++ Text.quote path, reason.message] ∨
        fault.chain = ["reading file for checksum: " ++ Text.quote path, reason.message] := by
  cases reading with
  | refused reason =>
      cases h
      exact ⟨reason, .inl rfl⟩
  | opened pieces reason =>
      cases reason with
      | none => cases h
      | some reason =>
          cases h
          exact ⟨reason, .inr rfl⟩

namespace ChangeSet

variable {changeSet : ChangeSet} {read : String → FileReading} {fault : FileFault}

/-- What a request for the checksum comes back with. -/
def answer (changeSet : ChangeSet) (read : String → FileReading) : Except FileFault String :=
  (changeSet.generateChecksum read).map fun finished => finished.checksum.getD ""

/-- The change set that a request leaves behind. -/
def store (changeSet : ChangeSet) : Except FileFault String → ChangeSet
  | .ok value => { changeSet with checksum := some value }
  | .error _ => changeSet

/-- Hashing stops at the first file with a fault. -/
theorem hashFiles_fault (paths : List String) :
    (hashFiles read paths).2 = paths.findSome? fun path => (read path).fault? path := by
  induction paths with
  | nil => rfl
  | cons path rest ih =>
      rw [List.findSome?_cons]
      cases hreading : read path with
      | refused fault => simp [hashFiles, fileDigest, hreading, FileReading.fault?]
      | opened pieces fault =>
          cases fault <;> simp [hashFiles, fileDigest, hreading, FileReading.fault?, ih]

/-- A request comes back with the fault of the first file that has one, or with the digest of what a
checksum covers. -/
theorem answer_eq :
    changeSet.answer read =
      match changeSet.files.findSome? fun path => (read path).fault? path with
      | some fault => .error fault
      | none => .ok (changeSet.intake read).digest := by
  rw [← hashFiles_fault]
  cases hfault : (hashFiles read changeSet.files).2 with
  | some fault => simp [answer, generateChecksum, entries, hfault, Except.map]
  | none =>
      rw [answer, generated_of_readable (hash_files_ok_iff.1 hfault)]
      rfl

/-- A request comes back with a value exactly if all files can be read, and the value is the digest
of what a checksum covers. -/
theorem answer_eq_ok_iff {value : String} :
    changeSet.answer read = .ok value ↔
      (∀ path ∈ changeSet.files, (read path).content?.isSome = true) ∧
        value = (changeSet.intake read).digest := by
  rw [← hash_files_ok_iff, hashFiles_fault, answer_eq]
  cases changeSet.files.findSome? fun path => (read path).fault? path with
  | some fault => simp
  | none => simp [eq_comm]

/-- A request comes back with a fault exactly if that is the fault of the first file that has
one. -/
theorem answer_eq_error_iff :
    changeSet.answer read = .error fault ↔
      ∃ front path back, changeSet.files = front ++ path :: back ∧
        (read path).fault? path = some fault ∧
        ∀ earlier ∈ front, (read earlier).content?.isSome = true := by
  have hfirst : changeSet.answer read = .error fault ↔
      (changeSet.files.findSome? fun path => (read path).fault? path) = some fault := by
    rw [answer_eq]
    cases changeSet.files.findSome? fun path => (read path).fault? path <;> simp
  rw [hfirst, List.findSome?_eq_some_iff]
  simp only [FileReading.fault_eq_none_iff]

/-- Whether an incident is a request for the checksum. -/
def Incident.isRequest : Incident → Bool
  | .checksumRequested => true
  | _ => false

namespace History

/-- The values that have come back so far, in order. -/
def values (history : History) : List String :=
  history.answers.filterMap Except.toOption

/-- Two histories have come to change sets with the same identity, command and files, and each file
has the same content or can be read in neither. -/
structure SameSubject (first second : History) : Prop where
  id : first.changeSet.id = second.changeSet.id
  author : first.changeSet.author = second.changeSet.author
  command : first.changeSet.command = second.changeSet.command
  files : first.changeSet.files = second.changeSet.files
  contents : ∀ path ∈ first.changeSet.files,
    (first.read path).content? = (second.read path).content?

variable {first second : History}

/-- The last incident comes after all the others. -/
theorem afterAll_concat (history : History) (incidents : List Incident) (incident : Incident) :
    history.afterAll (incidents ++ [incident]) = (history.afterAll incidents).after incident := by
  simp [afterAll]

/-- A request adds its answer, stores the value if there is one, and changes nothing else. -/
theorem after_request (history : History) :
    history.after .checksumRequested =
      { history with
        changeSet := history.changeSet.store (history.changeSet.answer history.read)
        answers := history.answers ++ [history.changeSet.answer history.read] } := by
  cases hgenerated : history.changeSet.generateChecksum history.read with
  | error fault => simp [after, answer, store, hgenerated, Except.map]
  | ok finished =>
      obtain ⟨checksum, rfl, -⟩ := generated_eq hgenerated
      simp [after, answer, store, hgenerated, Except.map]

/-- The stored checksum is the latest value that has come back, or the one from before. -/
theorem checksum_afterAll (changeSet : ChangeSet) (read : String → FileReading)
    (incidents : List Incident) :
    let history := afterAll ⟨changeSet, read, []⟩ incidents
    history.changeSet.checksum = history.values.getLast?.or changeSet.checksum := by
  -- The last incident decides, so the induction takes incidents from the end.
  induction incidents using List.reverseRecOn with
  | nil => rfl
  | append_singleton incidents incident ih =>
      rw [afterAll_concat]
      cases incident with
      | edited edit => cases edit <;> exact ih
      | filesChanged read => exact ih
      | checksumRequested =>
          rw [after_request]
          cases hanswer : (afterAll ⟨changeSet, read, []⟩ incidents).changeSet.answer
              (afterAll ⟨changeSet, read, []⟩ incidents).read with
          | error fault => simpa [values, store, Except.toOption] using ih
          | ok value => simp [values, store, Except.toOption]

/-- The answers are a chronicle of the requests. -/
theorem chronicle_answers : Chronicle after answers Incident.isRequest where
  added := by
    intro history incident hrequest
    cases incident with
    | edited | filesChanged => cases hrequest
    | checksumRequested =>
        rw [after_request]
        exact ⟨_, rfl⟩
  kept := by
    intro history incident hother
    cases incident with
    | edited | filesChanged => rfl
    | checksumRequested => cases hother

/-- An answer stands behind those that came before it, and depends on what the change set and the
files were. -/
theorem answer_afterAll (history : History) (before after : List Incident) :
    (history.afterAll (before ++ .checksumRequested :: after)).answers[
        history.answers.length + before.countP Incident.isRequest]? =
      some ((history.afterAll before).changeSet.answer (history.afterAll before).read) := by
  refine chronicle_answers.getElem?_foldl history before after .checksumRequested ?_
  rw [after_request]
  rfl

/-- Nothing but the subject decides which value comes back. -/
theorem SameSubject.answer_eq_ok_iff (h : SameSubject first second) {value : String} :
    first.changeSet.answer first.read = .ok value ↔
      second.changeSet.answer second.read = .ok value := by
  have hreadable : (∀ path ∈ second.changeSet.files, (second.read path).content?.isSome = true) ↔
      ∀ path ∈ first.changeSet.files, (first.read path).content?.isSome = true := by
    rw [← h.files]
    exact forall₂_congr fun path hpath => by rw [h.contents path hpath]
  rw [ChangeSet.answer_eq_ok_iff, ChangeSet.answer_eq_ok_iff, hreadable]
  refine and_congr_right fun hfirst => ?_
  -- Neither the comment nor the stored checksum is among what the digest takes in.
  have hhashes : fileHashes first.read first.changeSet.files =
      fileHashes second.read second.changeSet.files := by
    rw [← h.files]
    exact List.map_congr_left fun path hpath => by rw [h.contents path hpath]
  have hoctets : (first.changeSet.intake first.read).octets =
      (second.changeSet.intake second.read).octets := by
    rw [octets_intake, octets_intake, (digests_eq_iff hfirst (hreadable.2 hfirst)).2 hhashes,
      declaredEntries, declaredEntries, h.id, h.author, h.command]
  rw [Sink.digest, Sink.digest, hoctets]

/-- What a request with some answer means: it has failed exactly if some file cannot be read, and
then the fault quotes the first such file and the answer is all that is new. Otherwise the answer is
the digest of what a checksum covers, and nothing else is new but that it is stored. -/
structure Answered (history : History) (answer : Except FileFault String) : Prop where
  failed : (∃ fault, answer = .error fault) ↔
    ∃ path ∈ history.changeSet.files, (history.read path).content? = none
  first : ∀ fault, answer = .error fault →
    ∃ front path back, history.changeSet.files = front ++ path :: back ∧
      (∀ earlier ∈ front, (history.read earlier).content?.isSome = true) ∧
      (history.read path).content? = none ∧ (history.read path).fault? path = some fault ∧
      ∃ reason : OsError,
        fault.chain = ["opening file for checksum: " ++ Text.quote path, reason.message] ∨
          fault.chain = ["reading file for checksum: " ++ Text.quote path, reason.message]
  kept : ∀ fault, answer = .error fault →
    history.after .checksumRequested = { history with answers := history.answers ++ [answer] }
  digest : ∀ value, answer = .ok value → value = (history.changeSet.intake history.read).digest
  stored : ∀ value, answer = .ok value →
    history.after .checksumRequested =
      { history with
        changeSet := { history.changeSet with checksum := some value }
        answers := history.answers ++ [answer] }

/-- A request comes back with the answer that the change set and the files give. -/
theorem answered (history : History) :
    history.Answered (history.changeSet.answer history.read) where
  failed := by
    cases hanswer : history.changeSet.answer history.read with
    | error fault =>
        obtain ⟨front, path, back, hfiles, hfault, -⟩ := answer_eq_error_iff.1 hanswer
        refine iff_of_true ⟨fault, rfl⟩ ⟨path, by simp [hfiles], ?_⟩
        exact FileReading.content_eq_none_of_fault hfault
    | ok value =>
        obtain ⟨hreadable, -⟩ := ChangeSet.answer_eq_ok_iff.1 hanswer
        refine iff_of_false (by simp) ?_
        rintro ⟨path, hpath, hnone⟩
        simpa [hnone] using hreadable path hpath
  first := by
    intro fault hanswer
    obtain ⟨front, path, back, hfiles, hfault, hfront⟩ := answer_eq_error_iff.1 hanswer
    exact ⟨front, path, back, hfiles, hfront, FileReading.content_eq_none_of_fault hfault,
      hfault, FileReading.chain_of_fault hfault⟩
  kept := by
    intro fault hanswer
    rw [after_request, hanswer, store]
  digest := fun _ hanswer => (ChangeSet.answer_eq_ok_iff.1 hanswer).2
  stored := by
    intro value hanswer
    rw [after_request, hanswer, store]

/-- What can be said of a change set that is edited, whose files change and whose checksum is asked
for in any order. The stored checksum is the latest value that has come back, or the one from before
if none has. There is one answer to each request, and it is the one that what the change set and its
files were at that time foretells. Two requests at which the identity, the command, the files and
their contents are the same come back with the same value or both with a fault, whatever has become
of the comment and the stored checksum. -/
theorem checksum_of_history (changeSet : ChangeSet) (read : String → FileReading)
    (incidents : List Incident) :
    let start : History := ⟨changeSet, read, []⟩
    let history := start.afterAll incidents
    history.changeSet.checksum = history.values.getLast?.or changeSet.checksum ∧
    history.answers.length = incidents.countP Incident.isRequest ∧
    (∀ before after, incidents = before ++ .checksumRequested :: after →
      ∃ answer, history.answers[before.countP Incident.isRequest]? = some answer ∧
        (start.afterAll before).Answered answer) ∧
    ∀ before after earlier later, incidents = before ++ .checksumRequested :: after →
      incidents = earlier ++ .checksumRequested :: later →
      (start.afterAll before).SameSubject (start.afterAll earlier) →
      ∀ value, history.answers[before.countP Incident.isRequest]? = some (.ok value) ↔
        history.answers[earlier.countP Incident.isRequest]? = some (.ok value) := by
  intro start history
  have hanswer : ∀ before after, incidents = before ++ .checksumRequested :: after →
      history.answers[before.countP Incident.isRequest]? =
        some ((start.afterAll before).changeSet.answer (start.afterAll before).read) := by
    rintro before after rfl
    have hplace := answer_afterAll start before after
    rwa [show start.answers.length = 0 from rfl, Nat.zero_add] at hplace
  refine ⟨checksum_afterAll changeSet read incidents, ?_, ?_, ?_⟩
  · exact (chronicle_answers.foldl start incidents).2.trans (Nat.zero_add _)
  · intro before after hincidents
    exact ⟨_, hanswer before after hincidents, (start.afterAll before).answered⟩
  · intro before after earlier later hincidents hothers hsame value
    rw [hanswer before after hincidents, hanswer earlier later hothers, Option.some_inj,
      Option.some_inj]
    exact hsame.answer_eq_ok_iff

/-- A change set with one file. -/
def seedChangeSet : ChangeSet where
  id := "1"
  author := "ops"
  files := ["seed.sql"]

/-- Two requests with a new comment in between, and one more after the file has been removed. -/
def seedIncidents : List Incident :=
  [.checksumRequested, .edited (.comment (some "seeds")),
    .filesChanged fun _ => .opened [[0x76], [0x31]] none, .checksumRequested,
    .filesChanged fun _ => .refused .notFound, .checksumRequested]

/-- The requests before the removal come back with the same value, which is still stored after the
request that fails. -/
theorem checksum_of_history_with_removed_file :
    let history := afterAll ⟨seedChangeSet, fun _ => .opened [[0x76, 0x31]] none, []⟩ seedIncidents
    ∃ value fault, history.answers = [.ok value, .ok value, .error fault] ∧
      history.changeSet.checksum = some value := by
  intro history
  obtain ⟨hstored, hcount, hanswers, hrepeated⟩ := checksum_of_history seedChangeSet
    (fun _ => .opened [[0x76, 0x31]] none) seedIncidents
  obtain ⟨first, hfirst, hread⟩ := hanswers [] _ rfl
  obtain ⟨last, hlast, hremoved⟩ := hanswers (seedIncidents.take 5) _ rfl
  obtain ⟨fault, rfl⟩ := hremoved.failed.2 ⟨"seed.sql", List.mem_singleton_self _, rfl⟩
  obtain ⟨value, rfl⟩ : ∃ value, first = .ok value := by
    cases first with
    | ok value => exact ⟨value, rfl⟩
    | error fault =>
        obtain ⟨path, -, hnone⟩ := hread.failed.1 ⟨fault, rfl⟩
        cases hnone
  -- Between the first two requests only the comment and the way the file is read have changed.
  have hsecond := (hrepeated [] _ (seedIncidents.take 3) _ rfl rfl
    ⟨rfl, rfl, rfl, rfl, fun _ _ => rfl⟩ value).1 hfirst
  obtain ⟨_, _, _, hlist⟩ := List.length_eq_three.1 hcount
  have hlist : history.answers = [.ok value, .ok value, .error fault] := by
    rw [hlist] at hfirst hsecond hlast
    cases hfirst
    cases hsecond
    cases hlast
    exact hlist
  refine ⟨value, fault, hlist, ?_⟩
  have hvalues : history.values = [value, value] := by
    rw [values, hlist]
    rfl
  exact hstored.trans (by rw [show afterAll _ _ = history from rfl, hvalues]; rfl)

end History

end ChangeSet

end Runbook
