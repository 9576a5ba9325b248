import Runbook.Command
import Runbook.Proofs.Text.Trimming

/-!
# Filters of commands

However a command has been put together, its filter lists at least one name, and no name contains a
comma. So the names joined with commas, as they enter a checksum, still tell the filters apart. The
filter that a comma-separated list sets admits everything but what the list rules out
(`admits_ofText_eq_false_iff`).
-/

namespace Runbook

namespace Text

/-- No piece contains the separator. -/
theorem not_mem_of_mem_splitAt {separator : Char} {characters piece : List Char}
    (h : piece ∈ splitAt separator characters) : separator ∉ piece := by
  induction characters generalizing piece with
  | nil =>
      rw [splitAt, List.mem_singleton] at h
      simp [h]
  | cons c rest ih =>
      rw [splitAt] at h
      split at h
      · rcases List.mem_cons.1 h with rfl | hrest
        · exact List.not_mem_nil
        · exact ih hrest
      · rename_i hother
        split at h
        · rw [List.mem_singleton] at h
          simpa [h] using Ne.symm hother
        · rename_i head tail hsplit
          rcases List.mem_cons.1 h with rfl | htail
          · rw [List.mem_cons, not_or]
            exact ⟨Ne.symm hother, ih (by rw [hsplit]; exact List.mem_cons_self)⟩
          · exact ih (by rw [hsplit]; exact List.mem_cons_of_mem _ htail)

/-- The pieces are those between the occurrences of the separator. -/
theorem splitAt_eq_splitOn (separator : Char) (cs : List Char) :
    splitAt separator cs = cs.splitOn separator := by
  induction cs with
  | nil => simp [splitAt]
  | cons c rest ih =>
      rw [splitAt, List.splitOn_cons_eq_if_modifyHead, ih]
      split
      · simp_all
      · rename_i hother
        cases hsplit : rest.splitOn separator with
        | nil => simp at hsplit
        | cons piece pieces => simp [hother]

/-- Trimming only takes characters away. -/
theorem mem_of_mem_trimChars {c : Char} {characters : List Char} (h : c ∈ trimChars characters) :
    c ∈ characters := by
  rw [trimChars, trimRight, List.mem_reverse] at h
  have hreversed := (List.dropWhile_sublist _).mem h
  rw [List.mem_reverse] at hreversed
  exact (List.dropWhile_sublist _).mem hreversed

end Text

namespace OsFilter

/-- Two lists of names that differ at most in the white space around the names. -/
def Respaced (first second : String) : Prop :=
  (Text.splitAt ',' first.toList).map Text.trimChars =
    (Text.splitAt ',' second.toList).map Text.trimChars

/-- The white space around names makes no difference to the filter. -/
theorem Respaced.ofText_eq {first second : String} (h : Respaced first second) :
    ofText first = ofText second := by
  rw [Respaced] at h
  rw [ofText, ofText, names, names, h]

/-- A filter that a list sets has at least one name, and its names contain no commas. -/
theorem names_of_ofText {text : String} {allowed : List String} (h : ofText text = some allowed) :
    allowed ≠ [] ∧ ∀ name ∈ allowed, ',' ∉ name.toList := by
  rw [ofText] at h
  split at h
  · cases h
  · rename_i hsome
    cases h
    refine ⟨by simpa using hsome, fun name hname hcomma => ?_⟩
    obtain ⟨piece, hpiece, rfl⟩ := List.mem_map.1 hname
    obtain ⟨untrimmed, huntrimmed, rfl⟩ := List.mem_map.1 (List.mem_filter.1 hpiece).1
    rw [String.toList_ofList] at hcomma
    exact Text.not_mem_of_mem_splitAt huntrimmed (Text.mem_of_mem_trimChars hcomma)

section rules

variable {text name osName : String}

/-- The pieces between the commas of a list. -/
def pieces (text : String) : List String :=
  (text.toList.splitOn ',').map String.ofList

/-- The names in some pieces: each piece trimmed, and the blank ones left out. -/
def kept (pieces : List String) : List String :=
  (pieces.filter fun piece => !Text.isBlankText piece).map Text.trim

/-- A list rules an operating system out if some piece of it is not blank, and none of those pieces
is its name when it is trimmed. -/
structure RulesOut (text osName : String) : Prop where
  named : ∃ piece ∈ pieces text, Text.isBlankText piece = false
  others : ∀ piece ∈ pieces text, Text.isBlankText piece = false → Text.trim piece ≠ osName

/-- The names in a list are those in its pieces. -/
theorem names_eq_kept (text : String) : names text = kept (pieces text) := by
  have hblank : ∀ piece : List Char,
      (!(Text.trimChars piece).isEmpty) = !Text.isBlankText (String.ofList piece) := by
    intro piece
    rw [Bool.eq_iff_iff, Bool.not_eq_true', Bool.not_eq_true', ← Bool.not_eq_true,
      ← Bool.not_eq_true, List.isEmpty_iff, Text.trimChars_eq_nil_iff, Text.isBlankText,
      String.toList_ofList, List.all_eq_true]
  rw [names, kept, pieces, Text.splitAt_eq_splitOn, List.filter_map,
    List.filter_map, List.map_map, List.map_map]
  simp only [Function.comp_def, hblank, Text.trim, String.toList_ofList]

/-- The names in a list are its pieces, trimmed, but for the blank ones. -/
theorem mem_names_iff :
    name ∈ names text ↔
      ∃ piece ∈ pieces text, Text.isBlankText piece = false ∧ Text.trim piece = name := by
  simp only [names_eq_kept, kept, List.mem_map, List.mem_filter, Bool.not_eq_true', and_assoc]

/-- What a name in a filter can be: it is not empty, contains no comma, and has no white space at
its ends. -/
structure IsName (name : String) : Prop where
  nonempty : name ≠ ""
  comma : ',' ∉ name.toList
  trimmed : Text.trim name = name

/-- The pieces that are not blank are names when they are trimmed. -/
theorem isName_of_mem_pieces {piece : String} (hpiece : piece ∈ pieces text)
    (hkept : Text.isBlankText piece = false) : IsName (Text.trim piece) where
  nonempty := by
    rw [Ne, Text.trim_eq_empty_iff, hkept]
    decide
  comma := by
    intro hcomma
    obtain ⟨untrimmed, huntrimmed, rfl⟩ := List.mem_map.1 hpiece
    rw [← Text.splitAt_eq_splitOn] at huntrimmed
    rw [Text.trim, String.toList_ofList, String.toList_ofList] at hcomma
    exact Text.not_mem_of_mem_splitAt huntrimmed (Text.mem_of_mem_trimChars hcomma)
  trimmed := Text.trim_trim piece

/-- A list that names anything rules out what cannot be a name. -/
theorem rulesOut_of_not_isName (hnamed : ∃ piece ∈ pieces text, Text.isBlankText piece = false)
    (hother : ¬ IsName osName) : RulesOut text osName where
  named := hnamed
  others _ hpiece hkept heq := hother (heq ▸ isName_of_mem_pieces hpiece hkept)

/-- The filter that a list sets admits everything but what the list rules out. -/
theorem admits_ofText_eq_false_iff : admits (ofText text) osName = false ↔ RulesOut text osName := by
  rw [ofText]
  split
  · rename_i hnone
    rw [List.isEmpty_iff] at hnone
    refine ⟨nofun, fun ⟨⟨piece, hpiece, hkept⟩, _⟩ => ?_⟩
    have hmem : Text.trim piece ∈ names text := mem_names_iff.2 ⟨piece, hpiece, hkept, rfl⟩
    simp [hnone] at hmem
  · rename_i hsome
    simp only [admits, hsome, Bool.false_or, List.contains_eq_mem, decide_eq_false_iff_not,
      mem_names_iff, not_exists, not_and]
    refine ⟨fun h => ⟨?_, h⟩, RulesOut.others⟩
    obtain ⟨name, hmem⟩ := List.exists_mem_of_ne_nil _ (mt List.isEmpty_iff.2 hsome)
    obtain ⟨piece, hpiece, hkept, _⟩ := mem_names_iff.1 hmem
    exact ⟨piece, hpiece, hkept⟩

end rules

/-- Names without commas can be read back after they have been joined with commas. -/
theorem joined_inj {first second : List String} (hfirst : first ≠ []) (hsecond : second ≠ [])
    (hnames : ∀ name ∈ first, ',' ∉ name.toList) (hothers : ∀ name ∈ second, ',' ∉ name.toList)
    (h : ",".intercalate first = ",".intercalate second) : first = second := by
  have hjoined := congrArg String.toList h
  rw [String.toList_intercalate, String.toList_intercalate] at hjoined
  have hsplit := congrArg (List.splitOn ',') hjoined
  rw [show (",".toList) = [','] from rfl,
    List.splitOn_intercalate ',' (by simpa using hnames) (by simpa using hfirst),
    List.splitOn_intercalate ',' (by simpa using hothers) (by simpa using hsecond)] at hsplit
  exact List.map_inj_right (fun _ _ => String.toList_inj.1) |>.1 hsplit

end OsFilter

namespace Command

/-- The commands that can be put together: a new one has no arguments, no filter and no timeout, and
all that can be done to it is to add arguments and to set the other parts. -/
inductive Configured : Command → Prop
  | new (executable : String) : Configured { executable := executable }
  | addArgs {command : Command} (args : List String) (h : Configured command) :
      Configured (command.addArgs args)
  | setOs {command : Command} (names : String) (h : Configured command) :
      Configured (command.setOs names)
  | setTimeout {command : Command} (timeout : Option String) (h : Configured command) :
      Configured (command.setTimeout timeout)
  | setHooks {command : Command} (hooks : Hooks) (h : Configured command) :
      Configured { command with hooks := hooks }
  | setPolicy {command : Command} (policy : Policy) (h : Configured command) :
      Configured (command.setPolicy policy)

/-- The filter of a configured command comes from a list of names. -/
theorem Configured.names {command : Command} (h : Configured command) {allowed : List String}
    (hos : command.os = some allowed) :
    allowed ≠ [] ∧ ∀ name ∈ allowed, ',' ∉ name.toList := by
  induction h with
  | new executable => cases hos
  | setOs names h ih => exact OsFilter.names_of_ofText hos
  | addArgs args h ih => exact ih hos
  | setTimeout timeout h ih => exact ih hos
  | setHooks hooks h ih => exact ih hos
  | setPolicy policy h ih => exact ih hos

/-- Configured commands have the same filter if the joined names are the same. -/
theorem Configured.os_eq {first second : Command} (hfirst : first.Configured)
    (hsecond : second.Configured) {allowed others : List String} (hos : first.os = some allowed)
    (hother : second.os = some others)
    (h : ",".intercalate allowed = ",".intercalate others) : allowed = others :=
  OsFilter.joined_inj (hfirst.names hos).1 (hsecond.names hother).1 (hfirst.names hos).2
    (hsecond.names hother).2 h

end Command

end Runbook
