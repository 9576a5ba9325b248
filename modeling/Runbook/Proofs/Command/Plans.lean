import Runbook.Command.Usage
import Runbook.Proofs.Chronicle
import Runbook.Proofs.Command.Filter

/-!
# Plans in the history of a command

A command can be changed and planned in any order. What it has become is told by the arguments added
so far and by the last value that was set for each other part (`command_afterAll`), and no plan has
any part in that. So every plan is foretold by what came before it, and the clean-ups are as many as
the records. The main theorem is `plans_of_history`.
-/

namespace Runbook

/-- Whether a plan is a record. -/
def Plan.isRecord : Plan → Bool
  | .record _ => true
  | _ => false

namespace Command

section planning

variable {command : Command} {context : Context}

/-- A command that its filter does not admit is skipped. -/
theorem plan_of_not_admitted (hadmits : OsFilter.admits command.os context.osName = false) :
    command.plan context = .skip := by
  simp [plan, decide, hadmits]

variable (hadmits : OsFilter.admits command.os context.osName = true)

include hadmits

/-- Planning an admitted command is silent. -/
theorem planEvents_of_admitted : command.planEvents context = [] := by
  simp [planEvents, skipEvents, hadmits]

/-- In log-only mode an admitted command is recorded. -/
theorem plan_of_log_only (hmode : context.mode = .logOnly) :
    command.plan context = .record command.line := by
  simp [plan, decide, hadmits, hmode]

/-- In live mode an admitted command is to be run. -/
theorem plan_of_live (hmode : context.mode = .live) :
    command.plan context =
      .run ⟨command.argv, command.line, command.resolvedTimeout, context.encoding,
        command.policy⟩ := by
  simp [plan, decide, hadmits, hmode]

end planning

/-- Only the filter skips a command. -/
theorem plan_eq_skip_iff {command : Command} {context : Context} :
    command.plan context = .skip ↔ OsFilter.admits command.os context.osName = false := by
  cases hadmits : OsFilter.admits command.os context.osName with
  | false => exact iff_of_true (plan_of_not_admitted hadmits) rfl
  | true =>
      refine iff_of_false ?_ (by decide)
      cases hmode : context.mode with
      | logOnly => simp [plan_of_log_only hadmits hmode]
      | live => simp [plan_of_live hadmits hmode]

/-- A command that is planned to run has everything from its declaration and the context. -/
theorem eq_of_plan_run {command : Command} {context : Context} {pending : Pending}
    (hplan : command.plan context = .run pending) :
    pending = ⟨command.argv, command.line, command.resolvedTimeout, context.encoding,
      command.policy⟩ := by
  rw [plan] at hplan
  split at hplan <;> cases hplan
  rfl

/-- A clean-up is made exactly for a record. -/
theorem cleanups_of_plan (command : Command) (context : Context) (count : Nat) :
    command.planCleanups context count =
      if (command.plan context).isRecord then command.hooks.cleanup count else count := by
  unfold planCleanups plan
  cases decide command.os context.osName context.mode <;> rfl

/-- Whether a use is a plan. -/
def Use.isPlan : Use → Bool
  | .plan _ => true
  | _ => false

/-- The arguments that uses have added, in order. -/
def addedArgs (uses : List Use) : List String :=
  uses.flatMap fun
    | .addArgs args => args
    | _ => []

/-- The list of operating systems that was set last. -/
def lastOs? (uses : List Use) : Option String :=
  (uses.filterMap fun
    | .setOs names => some names
    | _ => none).getLast?

/-- The timeout that was set last, unless it was set to none. -/
def lastTimeout? (uses : List Use) : Option String :=
  (uses.filterMap fun
    | .setTimeout timeout => some timeout
    | _ => none).getLast?.join

/-- The policy that was set last. -/
def lastPolicy? (uses : List Use) : Option Policy :=
  (uses.filterMap fun
    | .setPolicy policy => some policy
    | _ => none).getLast?

/-- A command at the begin of its history. -/
def Usage.start (executable : String) (hooks : Hooks) : Usage :=
  { command := { executable := executable, hooks := hooks } }

namespace Usage

variable {usage : Usage} {uses before : List Use}

/-- The last use comes after all the others. -/
theorem afterAll_concat (usage : Usage) (uses : List Use) (use : Use) :
    usage.afterAll (uses ++ [use]) = (usage.afterAll uses).after use := by
  simp [afterAll]

/-- A command has become what was added and what was set last. -/
theorem command_afterAll (executable : String) (hooks : Hooks) (uses : List Use) :
    ((start executable hooks).afterAll uses).command =
      { executable := executable
        args := addedArgs uses
        os := (lastOs? uses).bind OsFilter.ofText
        timeout := lastTimeout? uses
        hooks := hooks
        policy := (lastPolicy? uses).getD .exitCode } := by
  -- The last use decides, so the induction takes uses from the end.
  induction uses using List.reverseRecOn with
  | nil => rfl
  | append_singleton uses use ih =>
      rw [afterAll_concat]
      cases use <;>
        simp [after, ih, Command.addArgs, setOs, setTimeout, setPolicy, addedArgs, lastOs?,
          lastTimeout?, lastPolicy?]

/-- Plans have no part in what a command becomes. -/
theorem command_filter {first second : Usage} (hsame : first.command = second.command)
    (uses : List Use) :
    (first.afterAll (uses.filter fun use => !use.isPlan)).command =
      (second.afterAll uses).command := by
  induction uses generalizing first second with
  | nil => exact hsame
  | cons use rest ih =>
      cases use with
      | plan => exact ih hsame
      | addArgs | setOs | setTimeout | setPolicy => exact ih (by simp only [after, hsame])

/-- The plans are a chronicle of the uses that make one. -/
theorem chronicle_plans : Chronicle after plans Use.isPlan where
  added := by
    intro usage use hplan
    cases use with
    | plan context => exact ⟨_, rfl⟩
    | addArgs | setOs | setTimeout | setPolicy => cases hplan
  kept := by
    intro usage use hother
    cases use with
    | plan context => cases hother
    | addArgs | setOs | setTimeout | setPolicy => rfl

/-- A plan stands behind those that were made before it, and depends on what the command was. -/
theorem plan_afterAll (usage : Usage) (before after : List Use) (context : Context) :
    (usage.afterAll (before ++ .plan context :: after)).plans[
        usage.plans.length + before.countP Use.isPlan]? =
      some ((usage.afterAll before).command.plan context) :=
  chronicle_plans.getElem?_foldl usage before after (.plan context) rfl

/-- A command in use whose hooks count clean-ups, of which there is one for each record. -/
structure Counted (usage : Usage) : Prop where
  hook : usage.command.hooks.cleanup = (· + 1)
  count : usage.cleanups = usage.plans.countP Plan.isRecord

/-- Every use keeps the count of clean-ups right. -/
theorem Counted.after (h : usage.Counted) (use : Use) : (usage.after use).Counted := by
  cases use with
  | addArgs | setOs | setTimeout | setPolicy => exact ⟨h.hook, h.count⟩
  | plan context =>
      refine ⟨h.hook, ?_⟩
      simp only [Usage.after, cleanups_of_plan, h.hook, h.count, List.countP_append,
        List.countP_singleton]
      -- The plan is a record or it is not, and both counts ask that.
      split <;> rfl

/-- In every history the clean-ups are as many as the records. -/
theorem Counted.afterAll (h : usage.Counted) (uses : List Use) : (usage.afterAll uses).Counted := by
  induction uses using List.reverseRecOn with
  | nil => exact h
  | append_singleton uses use ih =>
      rw [afterAll_concat]
      exact ih.after use

end Usage

/-- What a timeout comes to that was set as a text, or was not set. A blank text sets no limit. Any
other is trimmed and kept as the spelling, and there is no limit either if it spells no timeout. -/
inductive TimeoutResolves : Option String → Timeout → Prop
  | unset : TimeoutResolves none ⟨0, none⟩
  | blank {text : String} (hblank : ∀ c ∈ text.toList, Text.isBlank c = true) :
      TimeoutResolves (some text) ⟨0, none⟩
  | spelled {text : String} {millis : Nat} (hsome : ∃ c ∈ text.toList, Text.isBlank c = false)
      (hmillis : Timeout.parse? (Text.trim text) = some millis) :
      TimeoutResolves (some text) ⟨millis, some (Text.trim text)⟩
  | misspelled {text : String} (hsome : ∃ c ∈ text.toList, Text.isBlank c = false)
      (hnone : Timeout.parse? (Text.trim text) = none) :
      TimeoutResolves (some text) ⟨0, some (Text.trim text)⟩

/-- The timeout of a command is what was set comes to. -/
theorem timeout_resolves (spec : Option String) : TimeoutResolves spec (Timeout.ofSpec spec) := by
  cases spec with
  | none => exact .unset
  | some text =>
      have hempty : (Text.trim text).isEmpty = true ↔ ∀ c ∈ text.toList, Text.isBlank c = true :=
        String.isEmpty_iff.trans (Text.trim_eq_empty_iff.trans List.all_eq_true)
      rw [Timeout.ofSpec]
      by_cases hblank : ∀ c ∈ text.toList, Text.isBlank c = true
      · simp only [if_pos (hempty.2 hblank)]
        exact .blank hblank
      · simp only [if_neg (mt hempty.1 hblank), Timeout.millisOf]
        have hsome : ∃ c ∈ text.toList, Text.isBlank c = false := by simpa using hblank
        cases hparse : Timeout.parse? (Text.trim text) with
        | none => exact .misspelled hsome hparse
        | some millis => exact .spelled hsome hparse

/-- What a plan in a context is, foretold by the uses of a command that came before it. The hooks of
the command put some tokens in front of it. -/
structure Foretold (executable : String) (tokens : List String) (before : List Use)
    (context : Context) (plan : Plan) : Prop where
  skipped : plan = .skip ↔
    ∃ names, lastOs? before = some names ∧ OsFilter.RulesOut names context.osName
  recorded : plan ≠ .skip → context.mode = .logOnly →
    plan = .record (" ".intercalate (executable :: addedArgs before))
  run : plan ≠ .skip → context.mode = .live →
    ∃ timeout, TimeoutResolves (lastTimeout? before) timeout ∧
      plan = .run
        { argv := tokens ++ [executable] ++ addedArgs before
          line := " ".intercalate (executable :: addedArgs before)
          timeout := timeout
          encoding := context.encoding
          policy := (lastPolicy? before).getD .exitCode }

/-- The filter that was set last rules an operating system out, or there is none that does. -/
theorem admits_lastOs_eq_false_iff {uses : List Use} {osName : String} :
    OsFilter.admits ((lastOs? uses).bind OsFilter.ofText) osName = false ↔
      ∃ names, lastOs? uses = some names ∧ OsFilter.RulesOut names osName := by
  cases lastOs? uses with
  | none => simp [OsFilter.admits]
  | some names => simp [OsFilter.admits_ofText_eq_false_iff]

/-- The uses before a plan foretell it. -/
theorem foretold_plan (executable : String) (tokens : List String) (before : List Use)
    (context : Context) :
    Foretold executable tokens before context
      (((Usage.start executable (.wrapping tokens)).afterAll before).command.plan context) := by
  rw [Usage.command_afterAll]
  refine ⟨plan_eq_skip_iff.trans admits_lastOs_eq_false_iff, fun hplan hmode => ?_,
    fun hplan hmode => ?_⟩
  · have hadmits := Bool.of_not_eq_false (mt plan_eq_skip_iff.2 hplan)
    exact plan_of_log_only hadmits hmode
  · have hadmits := Bool.of_not_eq_false (mt plan_eq_skip_iff.2 hplan)
    refine ⟨_, timeout_resolves _, ?_⟩
    rw [plan_of_live hadmits hmode]
    simp [argv, Hooks.wrapping, commandLine, line, joinTokens, resolvedTimeout]

/-- What can be said of a command that is changed and planned in any order, and whose hooks put some
tokens in front of it and count clean-ups. Each of its plans is foretold by what came before: it is
skipped exactly if the list of operating systems set last has a piece that is not blank, and no such
piece is the name of the system when it is trimmed. Otherwise the mode tells whether it is recorded
as declared, with all arguments added so far, or run with the tokens in front and the timeout set
last. A name that is empty, contains a comma or has white space at an end is in no list. There are
as many clean-ups as records, and planning never changes the command. -/
theorem plans_of_history (executable : String) (tokens : List String) (uses : List Use) :
    let start : Usage := .start executable (.wrapping tokens)
    let usage := start.afterAll uses
    (∀ before context after, uses = before ++ .plan context :: after →
      ∃ plan, usage.plans[before.countP Use.isPlan]? = some plan ∧
        Foretold executable tokens before context plan) ∧
    usage.plans.length = uses.countP Use.isPlan ∧
    usage.cleanups = usage.plans.countP Plan.isRecord ∧
    usage.command = (start.afterAll (uses.filter fun use => !use.isPlan)).command ∧
    ∀ names osName, osName = "" ∨ ',' ∈ osName.toList ∨ Text.trim osName ≠ osName →
      (∃ piece ∈ OsFilter.pieces names, Text.isBlankText piece = false) →
        OsFilter.RulesOut names osName := by
  intro start usage
  refine ⟨?_, ?_, ?_, (Usage.command_filter rfl uses).symm, ?_⟩
  · rintro before context after rfl
    refine ⟨_, ?_, foretold_plan executable tokens before context⟩
    have hplan := Usage.plan_afterAll start before after context
    rwa [show start.plans.length = 0 from rfl, Nat.zero_add] at hplan
  · exact (Usage.chronicle_plans.foldl start uses).2.trans (Nat.zero_add _)
  · have hstart : start.Counted := ⟨rfl, rfl⟩
    exact (hstart.afterAll uses).count
  · intro names osName hodd hnamed
    refine OsFilter.rulesOut_of_not_isName hnamed fun hname => ?_
    rcases hodd with hempty | hcomma | hspaced
    · exact hname.nonempty hempty
    · exact hname.comma hcomma
    · exact hspaced hname.trimmed

/-- A command that is limited to another system, planned, freed from the limit by a blank list, and
planned again, with a timeout that takes the place of one that is misspelled. -/
def freedUses : List Use :=
  [.addArgs ["a"], .setTimeout (some "soon"), .setOs "Windows, ,", .plan ⟨.live, .utf8, "Linux"⟩,
    .setOs " , ", .addArgs ["b c"], .setTimeout (some " 2m "), .plan ⟨.live, .utf8, "Linux"⟩]

/-- The first plan skips the command. The second one runs it behind its wrapper, with the arguments
added by then and two minutes to go. -/
theorem plans_of_history_freed :
    let usage := (Usage.start "echo" (.wrapping ["nice"])).afterAll freedUses
    usage.plans[0]? = some .skip ∧
      usage.plans[1]? = some (.run ⟨["nice", "echo", "a", "b c"], "echo a b c",
        ⟨120000, some "2m"⟩, .utf8, .exitCode⟩) ∧
      usage.cleanups = usage.plans.countP Plan.isRecord := by
  obtain ⟨hplans, _, hcleanups, _⟩ := plans_of_history "echo" ["nice"] freedUses
  obtain ⟨first, hfirst, hforetold⟩ := hplans (freedUses.take 3) ⟨.live, .utf8, "Linux"⟩ _ rfl
  obtain ⟨second, hsecond, hlater⟩ := hplans (freedUses.take 7) ⟨.live, .utf8, "Linux"⟩ _ rfl
  have hskipped : first = .skip :=
    hforetold.skipped.2 ⟨_, rfl, ⟨"Windows", by decide, by decide⟩, by decide⟩
  have hkept : second ≠ .skip := by
    intro hskip
    obtain ⟨names, hnames, ⟨piece, hpiece, hnamed⟩, _⟩ := hlater.skipped.1 hskip
    cases hnames
    have hblank : ∀ piece ∈ OsFilter.pieces " , ", Text.isBlankText piece = true := by decide
    simp [hblank piece hpiece] at hnamed
  obtain ⟨timeout, hresolves, hrun⟩ := hlater.run hkept rfl
  have htimeout : timeout = ⟨120000, some "2m"⟩ := by
    have htrimmed : Text.trim " 2m " = "2m" := by decide
    have hparse : Timeout.parse? "2m" = some 120000 := by decide
    cases hresolves with
    | blank hblank => exact absurd (hblank '2' (by decide)) (by decide)
    | spelled hsome hmillis =>
        rw [htrimmed] at hmillis ⊢
        rw [Option.some.inj (hmillis.symm.trans hparse)]
    | misspelled hsome hnone =>
        rw [htrimmed, hparse] at hnone
        cases hnone
  rw [hskipped] at hfirst
  rw [hrun, htimeout] at hsecond
  exact ⟨hfirst, hsecond, hcleanups⟩

end Command

end Runbook
