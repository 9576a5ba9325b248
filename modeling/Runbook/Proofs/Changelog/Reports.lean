import Mathlib.Data.List.Nodup
import Runbook.Changelog.Validation

/-!
# What validation reports

A defect affects an entry of a changelog by itself or because of the entries before it. Validation
reports every defect of every entry once, in the order of the entries, and accepts exactly the
changelogs that are well formed. The main theorem is `problems_reported_exactly`.
-/

namespace Runbook

/-- What can be wrong with an entry. -/
inductive Defect where
  | noId
  | noAuthor
  | repeated
  | noExecutable
  | badTimeout
  deriving Repr, DecidableEq

namespace Defect

/-- All defects, in the order in which those of one entry are reported. -/
def all : List Defect :=
  [.noId, .noAuthor, .repeated, .noExecutable, .badTimeout]

/-- The position of a defect in this order. -/
def rank (defect : Defect) : Nat :=
  all.idxOf defect

/-- Whether a defect affects an entry that comes after some others. -/
def Affects (earlier : List ChangeSetEntry) (entry : ChangeSetEntry) : Defect → Prop
  | .noId => Text.isBlankText entry.id = true
  | .noAuthor => Text.isBlankText entry.author = true
  | .repeated => ∃ other ∈ earlier, other.id = entry.id ∧ other.author = entry.author
  | .noExecutable =>
    ∃ command ∈ entry.command, ∀ name ∈ command.executable, Text.isBlankText name = true
  | .badTimeout =>
    ∃ command ∈ entry.command, ∃ spec ∈ command.timeout, spec ≠ "" ∧ Timeout.parse? spec = none

instance decidableAffects (earlier : List ChangeSetEntry) (entry : ChangeSetEntry) :
    (defect : Defect) → Decidable (defect.Affects earlier entry)
  | .noId => inferInstanceAs (Decidable (Text.isBlankText entry.id = true))
  | .noAuthor => inferInstanceAs (Decidable (Text.isBlankText entry.author = true))
  | .repeated =>
    inferInstanceAs (Decidable
      (∃ other ∈ earlier, other.id = entry.id ∧ other.author = entry.author))
  | .noExecutable =>
    inferInstanceAs (Decidable
      (∃ command ∈ entry.command, ∀ name ∈ command.executable, Text.isBlankText name = true))
  | .badTimeout =>
    inferInstanceAs (Decidable
      (∃ command ∈ entry.command, ∃ spec ∈ command.timeout,
        spec ≠ "" ∧ Timeout.parse? spec = none))

/-- The wording of a defect of an entry. -/
def message (entry : ChangeSetEntry) : Defect → String
  | .noId => "id is required"
  | .noAuthor => "author is required"
  | .repeated => "duplicate changeset identifier"
  | .noExecutable => "executable is required"
  | .badTimeout =>
    "Invalid value specified for timeout: " ++ (entry.command.bind CommandEntry.timeout).getD ""

/-- No defect is left out of the order. -/
theorem mem_all (defect : Defect) : defect ∈ all := by
  cases defect <;> decide

end Defect

/-- The report of a defect of an entry, which stands at an index of its changelog. -/
structure Report where
  index : Nat
  entry : ChangeSetEntry
  defect : Defect
  deriving Repr, DecidableEq

namespace Report

/-- The wording of a report. It names the entry by its id and author, or by its number if both are
empty. -/
def message (report : Report) : String :=
  (if report.entry.id = "" ∧ report.entry.author = "" then
    "changeset #" ++ toString (report.index + 1)
  else
    "changeset '" ++ report.entry.id ++ "::" ++ report.entry.author ++ "'") ++ ": " ++
    report.defect.message report.entry

/-- Reports are ordered by the entries, and those of one entry by the defects. -/
def Before (first second : Report) : Prop :=
  first.index < second.index ∨ first.index = second.index ∧ first.defect.rank < second.defect.rank

/-- The reports of one entry. -/
def ofEntry (earlier : List ChangeSetEntry) (index : Nat) (entry : ChangeSetEntry) : List Report :=
  (Defect.all.filter fun defect => defect.Affects earlier entry).map fun defect =>
    ⟨index, entry, defect⟩

end Report

namespace Changelog

/-- The reports of a changelog: those of each entry, in the order of declaration. -/
def reports (changelog : Changelog) : List Report :=
  changelog.entries.zipIdx.flatMap fun (entry, index) =>
    Report.ofEntry (changelog.entries.take index) index entry

/-- A changelog in which nothing is wrong. -/
structure WellFormed (changelog : Changelog) : Prop where
  nonempty : changelog.entries ≠ []
  identified : ∀ entry ∈ changelog.entries,
    Text.isBlankText entry.id = false ∧ Text.isBlankText entry.author = false
  distinct : (changelog.entries.map fun entry => (entry.id, entry.author)).Nodup
  executables : ∀ entry ∈ changelog.entries, ∀ command ∈ entry.command,
    ∃ name, command.executable = some name ∧ Text.isBlankText name = false
  timeouts : ∀ entry ∈ changelog.entries, ∀ command ∈ entry.command,
    ∀ spec ∈ command.timeout, spec = "" ∨ ∃ millis, Timeout.parse? spec = some millis

end Changelog

section wording

variable {earlier : List ChangeSetEntry} {entry : ChangeSetEntry} {index : Nat}

/-- The filtered defects of an entry, one after the other. -/
theorem Defect.map_filter_all {α : Type} (affects : Defect → Prop) [DecidablePred affects]
    (f : Defect → α) :
    (all.filter fun defect => affects defect).map f =
      (if affects .noId then [f .noId] else []) ++
        ((if affects .noAuthor then [f .noAuthor] else []) ++
          ((if affects .repeated then [f .repeated] else []) ++
            ((if affects .noExecutable then [f .noExecutable] else []) ++
              (if affects .badTimeout then [f .badTimeout] else [])))) := by
  simp only [all, List.filter_cons, List.filter_nil, decide_eq_true_eq]
  split_ifs <;> rfl

/-- An executable that is missing counts as a blank one. -/
theorem CommandEntry.blank_executable_iff {command : CommandEntry} :
    Text.isBlankText command.toCommand.executable = true ↔
      ∀ name ∈ command.executable, Text.isBlankText name = true := by
  cases hname : command.executable with
  | none => simp [toCommand, hname, Text.isBlankText]
  | some name => simp [toCommand, hname]

/-- The complaint about a timeout comes exactly if it is not empty and not accepted. -/
theorem Command.timeout_problems_eq (timeout : Option String) :
    timeoutProblems timeout =
      if ∃ spec ∈ timeout, spec ≠ "" ∧ Timeout.parse? spec = none then
        ["Invalid value specified for timeout: " ++ timeout.getD ""]
      else [] := by
  cases timeout with
  | none => rfl
  | some spec =>
      have hnamed : (∃ other ∈ some spec, other ≠ "" ∧ Timeout.parse? other = none) ↔
          spec ≠ "" ∧ Timeout.parse? spec = none := by simp
      have hworded : Timeout.complaint spec =
          "Invalid value specified for timeout: " ++ (some spec).getD "" := rfl
      rw [if_congr hnamed rfl rfl, ← hworded]
      by_cases hempty : spec = "" <;> cases hparse : Timeout.parse? spec <;>
        simp [timeoutProblems, Timeout.check, hempty, hparse]

/-- The problems of the command of an entry are the wordings of the defects that concern it. -/
theorem ChangeSetEntry.command_problems_eq :
    (entry.command.map fun command => command.toCommand.problems).getD [] =
      (if Defect.noExecutable.Affects earlier entry then
        [Defect.noExecutable.message entry] else []) ++
      (if Defect.badTimeout.Affects earlier entry then
        [Defect.badTimeout.message entry] else []) := by
  cases hcommand : entry.command with
  | none =>
      rw [if_neg (by simp [Defect.Affects, hcommand]), if_neg (by simp [Defect.Affects, hcommand])]
      rfl
  | some command =>
      refine congrArg₂ _ (if_congr ?_ rfl rfl) ?_
      · simp [Defect.Affects, hcommand, CommandEntry.blank_executable_iff]
      · have hworded : Defect.badTimeout.message entry = "Invalid value specified for timeout: " ++
            (entry.command.bind CommandEntry.timeout).getD "" := rfl
        rw [Command.timeout_problems_eq, hworded, hcommand]
        refine if_congr ?_ rfl rfl
        simp [Defect.Affects, hcommand, CommandEntry.toCommand]

/-- The problems of an entry are the wordings of its defects. -/
theorem ChangeSetEntry.problems_eq :
    entry.problems earlier =
      (Defect.all.filter fun defect => defect.Affects earlier entry).map
        (Defect.message entry) := by
  have hrepeated : earlier.any entry.sameIdentity = true ↔
      Defect.repeated.Affects earlier entry := by
    simp only [List.any_eq_true, sameIdentity, Bool.and_eq_true, beq_iff_eq, Defect.Affects]
    simp only [eq_comm]
  rw [Defect.map_filter_all (fun defect => defect.Affects earlier entry), problems,
    List.append_assoc, List.append_assoc, command_problems_eq]
  exact congrArg₂ _ (if_congr Iff.rfl rfl rfl) (congrArg₂ _ (if_congr Iff.rfl rfl rfl)
    (congrArg₂ _ (if_congr hrepeated rfl rfl) rfl))

/-- The problems of an entry, with their place, are worded as its reports. -/
theorem ChangeSetEntry.located_problems :
    (entry.problems earlier).map (Problems.located (entry.place index)) =
      (Report.ofEntry earlier index entry).map Report.message := by
  rw [problems_eq, Report.ofEntry, List.map_map, List.map_map]
  refine List.map_congr_left fun defect _ => ?_
  simp [Problems.located, place, Report.message]

end wording

section order

variable {earlier rest : List ChangeSetEntry} {entry : ChangeSetEntry} {index : Nat}

/-- The reports of the entries that follow some others. -/
def Report.ofEntries (earlier rest : List ChangeSetEntry) : List Report :=
  (rest.zipIdx earlier.length).flatMap fun (entry, index) =>
    ofEntry ((earlier ++ rest).take index) index entry

/-- The reports of an entry come before those of the entries behind it. -/
theorem Report.ofEntries_cons :
    ofEntries earlier (entry :: rest) =
      ofEntry earlier earlier.length entry ++ ofEntries (earlier ++ [entry]) rest := by
  simp [ofEntries, List.zipIdx_cons]

/-- The problems of the entries behind some others are worded as their reports. -/
theorem Changelog.problems_after_eq :
    problemsAfter earlier rest = (Report.ofEntries earlier.reverse rest).map Report.message := by
  -- The entries before are kept in reverse, which no defect depends on.
  induction rest generalizing earlier with
  | nil => rfl
  | cons entry rest ih =>
      have hreverse : entry.problems earlier = entry.problems earlier.reverse := by
        simp [ChangeSetEntry.problems]
      rw [problemsAfter, ih, Report.ofEntries_cons, List.map_append, hreverse,
        ChangeSetEntry.located_problems, List.reverse_cons, List.length_reverse]

/-- A report says what is wrong with the entry at its index. -/
theorem Changelog.mem_reports {changelog : Changelog} {report : Report} :
    report ∈ changelog.reports ↔
      changelog.entries[report.index]? = some report.entry ∧
        report.defect.Affects (changelog.entries.take report.index) report.entry := by
  obtain ⟨index, entry, defect⟩ := report
  simp only [reports, Report.ofEntry, List.mem_flatMap, List.mem_map, List.mem_filter,
    decide_eq_true_eq, Report.mk.injEq, Prod.exists, List.mem_zipIdx_iff_getElem?]
  constructor
  · rintro ⟨_, _, hentry, _, ⟨_, haffects⟩, rfl, rfl, rfl⟩
    exact ⟨hentry, haffects⟩
  · rintro ⟨hentry, haffects⟩
    exact ⟨entry, index, hentry, defect, ⟨defect.mem_all, haffects⟩, rfl, rfl, rfl⟩

/-- The reports of an entry are in the order of the defects. -/
theorem Report.pairwise_ofEntry : (ofEntry earlier index entry).Pairwise Before := by
  have hranked : Defect.all.Pairwise fun first second => first.rank < second.rank := by decide
  exact List.pairwise_map.2 ((hranked.filter _).imp fun hrank => .inr ⟨rfl, hrank⟩)

/-- Reports are in order, and no report occurs twice. -/
theorem Changelog.pairwise_reports (changelog : Changelog) :
    changelog.reports.Pairwise Report.Before := by
  have hindices : changelog.entries.zipIdx.Pairwise fun first second => first.2 < second.2 := by
    rw [← List.pairwise_map, List.zipIdx_map_snd]
    exact List.pairwise_lt_range' 1
  refine List.pairwise_flatMap.2 ⟨fun _ _ => Report.pairwise_ofEntry, hindices.imp ?_⟩
  intro first second hlt report hreport other hother
  obtain ⟨_, _, rfl⟩ := List.mem_map.1 hreport
  obtain ⟨_, _, rfl⟩ := List.mem_map.1 hother
  exact .inl hlt

end order

section repetition

variable {earlier rest : List ChangeSetEntry} {entry : ChangeSetEntry} {index : Nat}
  (id author : String)

/-- Whether an entry has the given identity. -/
def ChangeSetEntry.isNamed (entry : ChangeSetEntry) : Bool :=
  entry.id == id && entry.author == author

/-- Whether a report is about an entry that repeats the given identity. -/
def Report.isRepetition (report : Report) : Bool :=
  report.defect == .repeated && report.entry.isNamed id author

/-- An entry is reported as a repetition once, if its identity has been there before. -/
theorem Report.countP_ofEntry :
    (ofEntry earlier index entry).countP (isRepetition id author) =
      if entry.isNamed id author && earlier.any (·.isNamed id author) then 1 else 0 := by
  rw [ofEntry, List.countP_map, List.countP_filter]
  cases hentry : entry.isNamed id author with
  | false => simp [isRepetition, hentry]
  | true =>
      obtain ⟨rfl, rfl⟩ : entry.id = id ∧ entry.author = author := by
        simpa [ChangeSetEntry.isNamed] using hentry
      have hknown : earlier.any (·.isNamed entry.id entry.author) =
          (Defect.repeated.Affects earlier entry : Bool) := by
        rw [Bool.eq_iff_iff, decide_eq_true_iff]
        simp [ChangeSetEntry.isNamed, Defect.Affects]
      simp [Defect.all, List.countP_cons, isRepetition, hentry, hknown]

/-- Of the entries with one identity behind some others, all are reported as repetitions if these
others have it too, and all but one otherwise. -/
theorem Report.countP_ofEntries :
    (ofEntries earlier rest).countP (isRepetition id author) =
      rest.countP (·.isNamed id author) -
        if earlier.any (·.isNamed id author) then 0 else 1 := by
  induction rest generalizing earlier with
  | nil => simp [ofEntries]
  | cons entry rest ih =>
      rw [ofEntries_cons, List.countP_append, ih, countP_ofEntry, List.countP_cons, List.any_append]
      cases hentry : entry.isNamed id author with
      | false => simp [hentry]
      | true =>
          cases earlier.any (·.isNamed id author) with
          | false => simp [hentry]
          | true => simp [hentry, Nat.add_comm]

end repetition

section acceptance

variable {changelog : Changelog}

/-- Identities are distinct exactly if no entry repeats one before it. -/
theorem Changelog.distinct_iff {entries : List ChangeSetEntry} :
    (entries.map fun entry => (entry.id, entry.author)).Nodup ↔
      ∀ index entry, entries[index]? = some entry →
        ¬ Defect.repeated.Affects (entries.take index) entry := by
  rw [List.Nodup, List.pairwise_map, List.pairwise_iff_getElem]
  constructor
  · rintro hpairs index entry hentry ⟨other, hother, hid, hauthor⟩
    obtain ⟨hindex, rfl⟩ := List.getElem?_eq_some_iff.1 hentry
    obtain ⟨earlier, hearlier, rfl⟩ := List.mem_take_iff_getElem.1 hother
    exact hpairs earlier index _ hindex (by omega) (Prod.ext hid hauthor)
  · intro hnone earlier later hearlier hlater hlt hsame
    obtain ⟨hid, hauthor⟩ := Prod.ext_iff.1 hsame
    refine hnone later _ (List.getElem?_eq_getElem hlater)
      ⟨entries[earlier], List.mem_take_iff_getElem.2 ⟨earlier, by omega, rfl⟩, hid, hauthor⟩

/-- There is nothing to report exactly if no defect affects any entry. -/
theorem Changelog.reports_eq_nil_iff :
    changelog.reports = [] ↔
      ∀ index entry, changelog.entries[index]? = some entry →
        ∀ defect : Defect, ¬ defect.Affects (changelog.entries.take index) entry := by
  rw [List.eq_nil_iff_forall_not_mem]
  constructor
  · intro hnone index entry hentry defect haffects
    exact hnone ⟨index, entry, defect⟩ (mem_reports.2 ⟨hentry, haffects⟩)
  · intro hnone report hmem
    obtain ⟨hentry, haffects⟩ := mem_reports.1 hmem
    exact hnone _ _ hentry _ haffects

/-- Every command names an executable exactly if none lacks one. -/
theorem Defect.not_no_executable_iff {earlier : List ChangeSetEntry} {entry : ChangeSetEntry} :
    ¬ noExecutable.Affects earlier entry ↔
      ∀ command ∈ entry.command,
        ∃ name, command.executable = some name ∧ Text.isBlankText name = false := by
  simp only [Affects, not_exists, not_and, not_forall, Option.mem_def, exists_prop,
    Bool.not_eq_true]

/-- Every timeout is empty or accepted exactly if none is bad. -/
theorem Defect.not_bad_timeout_iff {earlier : List ChangeSetEntry} {entry : ChangeSetEntry} :
    ¬ badTimeout.Affects earlier entry ↔
      ∀ command ∈ entry.command, ∀ spec ∈ command.timeout,
        spec = "" ∨ ∃ millis, Timeout.parse? spec = some millis := by
  simp only [Affects, not_exists, not_and, ← Option.ne_none_iff_exists', or_iff_not_imp_left]

/-- A changelog with entries is well formed exactly if there is nothing to report. -/
theorem Changelog.well_formed_iff (hsome : changelog.entries ≠ []) :
    changelog.WellFormed ↔ changelog.reports = [] := by
  rw [reports_eq_nil_iff]
  constructor
  · intro h index entry hentry defect
    have hmem : entry ∈ changelog.entries := List.mem_of_getElem? hentry
    cases defect with
    | noId => exact Bool.eq_false_iff.1 (h.identified entry hmem).1
    | noAuthor => exact Bool.eq_false_iff.1 (h.identified entry hmem).2
    | repeated => exact distinct_iff.1 h.distinct index entry hentry
    | noExecutable => exact Defect.not_no_executable_iff.2 (h.executables entry hmem)
    | badTimeout => exact Defect.not_bad_timeout_iff.2 (h.timeouts entry hmem)
  · intro hnone
    have hfine : ∀ entry ∈ changelog.entries, ∃ earlier : List ChangeSetEntry,
        ∀ defect : Defect, ¬ defect.Affects earlier entry := by
      intro entry hmem
      obtain ⟨index, hentry⟩ := List.mem_iff_getElem?.1 hmem
      exact ⟨_, hnone index entry hentry⟩
    refine ⟨hsome, fun entry hmem => ?_, ?_, fun entry hmem => ?_, fun entry hmem => ?_⟩
    · obtain ⟨_, hfine⟩ := hfine entry hmem
      exact ⟨Bool.eq_false_iff.2 (hfine .noId), Bool.eq_false_iff.2 (hfine .noAuthor)⟩
    · exact distinct_iff.2 fun index entry hentry => hnone index entry hentry .repeated
    · obtain ⟨_, hfine⟩ := hfine entry hmem
      exact Defect.not_no_executable_iff.1 (hfine .noExecutable)
    · obtain ⟨_, hfine⟩ := hfine entry hmem
      exact Defect.not_bad_timeout_iff.1 (hfine .badTimeout)

/-- Validation finds the single problem of a changelog without entries, and otherwise reports what
is wrong with the entries. -/
theorem Changelog.problems_eq :
    changelog.problems.messages =
      if changelog.entries = [] then
        ["changelog must contain at least one [[changeset]] entry"]
      else
        changelog.reports.map Report.message := by
  cases hentries : changelog.entries with
  | nil => simp [problems, hentries]
  | cons entry rest =>
      rw [if_neg (List.cons_ne_nil _ _), problems, hentries, problems_after_eq]
      simp only [List.reverse_nil, reports, hentries]
      rfl

/-- Nothing is wrong exactly with a changelog that is well formed. -/
theorem Changelog.problems_eq_nil_iff :
    changelog.problems.messages = [] ↔ changelog.WellFormed := by
  rw [problems_eq]
  split
  · rename_i hempty
    exact iff_of_false (by simp) fun h => h.nonempty hempty
  · rename_i hsome
    rw [List.map_eq_nil_iff, well_formed_iff hsome]

/-- An accepted changelog is well formed. -/
theorem Changelog.Accepted.well_formed (accepted : Accepted) : accepted.changelog.WellFormed :=
  problems_eq_nil_iff.1 accepted.sound

/-- Exactly the well-formed changelogs are accepted, and they are left as they are. -/
theorem Changelog.accept_ok_iff {accepted : Accepted} :
    changelog.accept = .ok accepted ↔ changelog.WellFormed ∧ accepted.changelog = changelog := by
  rw [accept]
  split
  · rename_i hsound
    rw [← problems_eq_nil_iff, and_iff_right hsound]
    constructor
    · rintro ⟨⟩
      rfl
    · rintro rfl
      rfl
  · rename_i hunsound
    refine iff_of_false (by simp) fun h => hunsound (problems_eq_nil_iff.2 h.1)

/-- Validation reports exactly the problems there are. Without entries there is a single one.
Otherwise the messages are those of the reports, and there is a report for every defect that affects
an entry and for nothing else. Reports are in the order of the entries, those of one entry in the
order of the defects, and none occurs twice. Of several entries with the same identity, all but one
are reported as repetitions. A changelog is accepted exactly if it is well formed, and it is left as
it is. Otherwise the failure lists all messages. -/
theorem Changelog.problems_reported_exactly (changelog : Changelog) :
    (changelog.problems.messages =
      if changelog.entries = [] then
        ["changelog must contain at least one [[changeset]] entry"]
      else
        changelog.reports.map Report.message) ∧
    (∀ report, report ∈ changelog.reports ↔
      changelog.entries[report.index]? = some report.entry ∧
        report.defect.Affects (changelog.entries.take report.index) report.entry) ∧
    changelog.reports.Pairwise Report.Before ∧
    (∀ id author, changelog.reports.countP (Report.isRepetition id author) =
      changelog.entries.countP (·.isNamed id author) - 1) ∧
    ((∃ accepted, changelog.accept = .ok accepted) ↔ changelog.WellFormed) ∧
    (∀ accepted, changelog.accept = .ok accepted → accepted.changelog = changelog) ∧
    ∀ failure, changelog.accept = .error failure →
      failure = .validation changelog.problems.messages := by
  refine ⟨problems_eq, fun report => mem_reports, pairwise_reports changelog, fun id author => ?_,
    ⟨?_, fun h => ?_⟩, fun accepted haccept => (accept_ok_iff.1 haccept).2, fun failure => ?_⟩
  · exact @Report.countP_ofEntries [] changelog.entries id author
  · rintro ⟨accepted, haccept⟩
    exact (accept_ok_iff.1 haccept).1
  · exact ⟨⟨changelog, problems_eq_nil_iff.2 h⟩, accept_ok_iff.2 ⟨h, rfl⟩⟩
  · rw [accept]
    split
    · rintro ⟨⟩
    · rintro ⟨⟩
      rfl

example :
    (Changelog.problems {
      entries := [
        { id := "1", author := "ops", command := some { timeout := some "10x" } },
        { id := "1", author := "ops" }, { author := "ops" }, {}] }).messages =
      ["changeset '1::ops': executable is required",
        "changeset '1::ops': Invalid value specified for timeout: 10x",
        "changeset '1::ops': duplicate changeset identifier", "changeset '::ops': id is required",
        "changeset #4: id is required", "changeset #4: author is required"] := by
  decide +kernel

end acceptance

end Runbook
