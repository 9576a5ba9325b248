import Runbook.Proofs.Checksum.Arguments
import Runbook.Proofs.Pipeline.DryRun

/-!
# Records of dry runs, line by line

The output of a dry run is meant for a script, so every record stands behind a comment marker. The
marker covers the first line of a record only: a token with a line break puts the rest of the record
on lines of its own. The main theorem is `marked_line_by_line_iff`.
-/

namespace Runbook

/-- What makes a line of a script a comment. -/
def marker : List Char :=
  "-- ".toList

/-- The lines of a text in which every line is ended. -/
def outputLines (text : String) : List (List Char) :=
  (text.toList.splitOn '\n').dropLast

/-- The lines that a record takes. Only the first one is marked. -/
def linesOfRecord (record : String) : List (List Char) :=
  (record.toList.splitOn '\n').modifyHead (marker ++ ·)

/-- How often tokens break the line. -/
def lineBreaks (tokens : List String) : Nat :=
  (tokens.flatMap String.toList).count '\n'

/-- The line breaks of two lists of tokens add up. -/
@[simp] theorem lineBreaks_append (first second : List String) :
    lineBreaks (first ++ second) = lineBreaks first + lineBreaks second := by
  rw [lineBreaks, List.flatMap_append, List.count_append]
  rfl

/-- No line is broken exactly if no token contains a line break. -/
theorem lineBreaks_eq_zero_iff {tokens : List String} :
    lineBreaks tokens = 0 ↔ ∀ token ∈ tokens, '\n' ∉ token.toList := by
  simp [lineBreaks, List.count_eq_zero]

/-- There is one more piece than there are separators. -/
theorem length_splitOn (separator : Char) (characters : List Char) :
    (characters.splitOn separator).length = characters.count separator + 1 := by
  induction characters with
  | nil => rfl
  | cons c rest ih =>
      rw [List.splitOn_cons_eq_if_modifyHead, List.count_cons]
      split
      · rw [List.length_cons, ih]
      · rw [List.length_modifyHead, ih]

/-- Joining tokens breaks no further line. -/
theorem count_joinTokens (tokens : List String) :
    (joinTokens tokens).toList.count '\n' = lineBreaks tokens := by
  induction tokens with
  | nil => rfl
  | cons token rest ih =>
      rw [← List.singleton_append, lineBreaks_append, ← ih]
      cases rest with
      | nil => simp [joinTokens, lineBreaks]
      | cons next others =>
          rw [List.singleton_append, toList_joinTokens_cons token (List.cons_ne_nil next others),
            List.count_append, List.count_cons_of_ne (by decide), lineBreaks,
            List.flatMap_singleton]

/-- The lines of a trace are read back from its output, each cut at its line breaks. -/
theorem outputLines_output (trace : Trace) :
    outputLines trace.output = trace.lines.flatMap fun line => line.toList.splitOn '\n' := by
  have hsplit : trace.output.toList.splitOn '\n' =
      (trace.lines.flatMap fun line => line.toList.splitOn '\n') ++ [[]] := by
    rw [Trace.output, String.toList_join, List.flatMap_map]
    induction trace.lines with
    | nil => rfl
    | cons line rest ih =>
        rw [List.flatMap_cons, List.flatMap_cons, String.toList_append, List.append_assoc,
          show "\n".toList = ['\n'] from rfl, List.singleton_append, List.splitOn_append_cons_self,
          ih, List.append_assoc]
  rw [outputLines, hsplit, List.dropLast_concat]

/-- The marker joins the first line of what it is put in front of. -/
theorem splitOn_marked (record : String) :
    ("-- " ++ record).toList.splitOn '\n' = linesOfRecord record := by
  rw [String.toList_append, linesOfRecord, marker]
  simp only [show "-- ".toList = ['-', '-', ' '] from rfl, List.cons_append, List.nil_append]
  simp [List.splitOn_cons_eq_if_modifyHead, List.modifyHead_modifyHead, Function.comp_def]

/-- A record takes one line more than its tokens have line breaks. -/
theorem length_linesOfRecord (tokens : List String) :
    (linesOfRecord (joinTokens tokens)).length = lineBreaks tokens + 1 := by
  rw [linesOfRecord, List.length_modifyHead, length_splitOn, count_joinTokens]

/-- Records take one line each, and one more for every line break in their tokens. -/
theorem length_linesOfRecords (records : List (List String)) :
    (records.flatMap fun tokens => linesOfRecord (joinTokens tokens)).length =
      records.length + lineBreaks records.flatten := by
  induction records with
  | nil => rfl
  | cons tokens rest ih =>
      rw [List.flatMap_cons, List.length_append, length_linesOfRecord, ih, List.flatten_cons,
        lineBreaks_append, List.length_cons]
      omega

/-- A record without line breaks takes a single line, which is marked. -/
theorem linesOfRecord_of_unbroken {tokens : List String}
    (hunbroken : ∀ token ∈ tokens, '\n' ∉ token.toList) :
    linesOfRecord (joinTokens tokens) = [marker ++ (joinTokens tokens).toList] := by
  have hnone : '\n' ∉ (joinTokens tokens).toList := by
    rw [← List.count_eq_zero, count_joinTokens, lineBreaks_eq_zero_iff]
    exact hunbroken
  rw [linesOfRecord, List.splitOn_eq_singleton hnone]
  rfl

/-- The output of a dry run whose checks all pass consists of the records of the due commands, in
order, each with a marker on its first line, and with every other line exactly as a token has it. So
there are as many lines as there are records and line breaks in their tokens. There is one line for
each record, and every line is marked, exactly if no token contains a line break. -/
theorem marked_line_by_line_iff {σ : Type} (world : World σ) (options : Options) (state : σ)
    (osName : String) {changelog : Changelog} (hcleared : Cleared world options state changelog)
    (hlimit : options.workers.getD (world.parallelism state) ≤ Checksum.workerLimit)
    (hlisting : options.checksums = false)
    (hmode : options.logOnly = true ∨ changelog.settings.mode = .logOnly) :
    let records := (dueCommands osName
      (declaredChangeSets world options state changelog)).map fun due => due.command.argv
    let shown := outputLines (run world options state osName).trace.output
    (run world options state osName).ending = .finished ∧
    shown = (records.flatMap fun tokens => linesOfRecord (joinTokens tokens)) ∧
    shown.length = records.length + lineBreaks records.flatten ∧
    ((shown.length = records.length ∧ ∀ line ∈ shown, marker <+: line) ↔
      ∀ tokens ∈ records, ∀ token ∈ tokens, '\n' ∉ token.toList) := by
  intro records shown
  obtain ⟨hending, _, _, hlines⟩ :=
    hcleared.dry_run hlimit hlisting (Options.mode_eq_log_only_iff.2 hmode) osName
  have hshown : shown = records.flatMap fun tokens => linesOfRecord (joinTokens tokens) := by
    simp only [shown, records, outputLines_output, hlines, List.flatMap_map, splitOn_marked]
    exact List.flatMap_congr fun due hdue => congrArg linesOfRecord (line_of_declared hdue)
  have hlength : shown.length = records.length + lineBreaks records.flatten := by
    rw [hshown, length_linesOfRecords]
  refine ⟨hending, hshown, hlength, fun ⟨hsame, _⟩ tokens htokens token htoken => ?_,
    fun hunbroken => ⟨?_, fun line hline => ?_⟩⟩
  · -- Every line break costs a line, so the count of lines alone tells that there is none.
    have hnone : lineBreaks records.flatten = 0 := by omega
    exact lineBreaks_eq_zero_iff.1 hnone token (List.mem_flatten.2 ⟨tokens, htokens, htoken⟩)
  · have hnone : lineBreaks records.flatten = 0 := by
      refine lineBreaks_eq_zero_iff.2 fun token htoken => ?_
      obtain ⟨tokens, htokens, htoken⟩ := List.mem_flatten.1 htoken
      exact hunbroken tokens htokens token htoken
    rw [hlength, hnone, Nat.add_zero]
  · rw [hshown] at hline
    obtain ⟨tokens, htokens, hline⟩ := List.mem_flatMap.1 hline
    rw [linesOfRecord_of_unbroken (hunbroken tokens htokens), List.mem_singleton] at hline
    rw [hline]
    exact List.prefix_append _ _

/-- The lines of a changelog whose command hands a script of two lines to a shell. -/
def linesWithScript : List String :=
  ["[[changeset]]", "id = \"1\"", "author = \"ops\"", "[changeset.execute_command]",
    "executable = \"sh\"", "args = [\"-c\", \"echo one\\necho two\"]"]

/-- The changelog with these lines. -/
def changelogWithScript : Changelog.Accepted where
  changelog :=
    { entries := [
        { id := "1", author := "ops",
          command := some { executable := some "sh", args := ["-c", "echo one\necho two"] } }] }
  sound := by decide +kernel

/-- The pieces in which the changelog is read. -/
def piecesWithScript : List (List UInt8) :=
  linesWithScript.map fun line => Text.Utf8.encode line ++ [0x0A]

/-- The pieces are read as the changelog. -/
theorem reading_with_script :
    Changelog.ofReading (.opened piecesWithScript none) = .ok changelogWithScript.changelog := by
  let characters := linesWithScript.flatMap fun line => line.toList ++ ['\n']
  have hparts : (Text.Utf8.parts piecesWithScript.flatten).mapM id = some characters := by
    decide +kernel
  refine reading_of_characters hparts ?_
  rw [Changelog.ofText, Toml.parse?, Toml.statements?, Toml.tokens_ofList]
  decide +kernel

/-- A world with that changelog, in which nothing can be started. -/
def worldWithScript : World Unit where
  read _ path :=
    if path = "Changelog.toml" then .opened piecesWithScript none else .refused .notFound
  directory _ := "/work"
  parallelism _ := 2
  launch _ _ _ := (.refused .notFound, ())

/-- All checks of a run of that changelog pass. -/
theorem cleared_with_script :
    Cleared worldWithScript { logOnly := true } () changelogWithScript.changelog where
  read := reading_with_script
  sound := changelogWithScript.sound
  workers := by simp
  checksums := by
    have hreadable : ∀ changeSet ∈
        declaredChangeSets worldWithScript { logOnly := true } () changelogWithScript.changelog,
        ∀ path ∈ changeSet.files, (worldWithScript.read () path).content?.isSome = true := by
      decide +kernel
    exact fun changeSet hmem =>
      ChangeSet.generate_checksum_ok_iff.2 (hreadable changeSet hmem)

/-- The one record of that changelog takes two lines, and not all of them are marked. -/
theorem marked_line_by_line_of_script :
    (outputLines (run worldWithScript { logOnly := true } ()).trace.output).length = 2 ∧
    ¬∀ line ∈ outputLines (run worldWithScript { logOnly := true } ()).trace.output,
      marker <+: line := by
  obtain ⟨_, hshown, hlength, _⟩ :=
    marked_line_by_line_iff worldWithScript { logOnly := true } () currentOsName
      cleared_with_script (by decide) rfl (.inl rfl)
  rw [hlength, hshown]
  decide +kernel

/-- A dry run that passes all its checks can show a line of a script that is no comment. -/
theorem script_line_unmarked :
    Cleared worldWithScript { logOnly := true } () changelogWithScript.changelog ∧
    (run worldWithScript { logOnly := true } ()).trace.output =
      "-- sh -c echo one\necho two\n" ∧
    outputLines (run worldWithScript { logOnly := true } ()).trace.output =
      ["-- sh -c echo one".toList, "echo two".toList] ∧
    ¬marker <+: "echo two".toList := by
  obtain ⟨_, _, _, hlines⟩ :=
    cleared_with_script.dry_run (by decide) rfl (Options.mode_eq_log_only_iff.2 (.inl rfl))
      currentOsName
  have houtput : (run worldWithScript { logOnly := true } ()).trace.output =
      "-- sh -c echo one\necho two\n" := by
    rw [Trace.output, hlines]
    decide +kernel
  refine ⟨cleared_with_script, houtput, ?_, by decide⟩
  rw [houtput]
  decide +kernel

end Runbook
