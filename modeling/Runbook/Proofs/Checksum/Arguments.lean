import Runbook.Proofs.Checksum.Subject

/-!
# What a checksum tells about arguments

A checksum covers the line of a command, in which the tokens are joined by single spaces. So it
notices a change of the argument vector exactly if the words of the line change, and it does not
notice a space inside a token that becomes a boundary between two tokens. The main theorem is
`arguments_noticed_iff`.
-/

namespace Runbook

/-- The words of a sequence of tokens: all tokens cut at each of their spaces. -/
def wordsOf (tokens : List String) : List (List Char) :=
  tokens.flatMap fun token => token.toList.splitOn ' '

/-- The words of the first token come first. -/
@[simp] theorem wordsOf_cons (token : String) (rest : List String) :
    wordsOf (token :: rest) = token.toList.splitOn ' ' ++ wordsOf rest :=
  List.flatMap_cons

/-- The joined tokens, cut at each space, are the words. -/
theorem splitOn_joinTokens {tokens : List String} (hsome : tokens ≠ []) :
    (joinTokens tokens).toList.splitOn ' ' = wordsOf tokens := by
  rw [joinTokens, String.toList_intercalate, show " ".toList = [' '] from rfl]
  induction tokens with
  | nil => exact absurd rfl hsome
  | cons token rest ih =>
      cases rest with
      | nil => simp [wordsOf]
      | cons next others =>
          have hrest := ih (List.cons_ne_nil next others)
          rw [List.map_cons] at hrest
          rw [List.map_cons, List.map_cons, List.intercalate_cons_cons, List.append_assoc,
            List.singleton_append, List.splitOn_append_cons_self, hrest]
          exact (wordsOf_cons token _).symm

/-- Tokens are joined to the same line exactly if they have the same words. -/
theorem joinTokens_eq_iff {first second : List String} (hfirst : first ≠ []) (hsecond : second ≠ []) :
    joinTokens first = joinTokens second ↔ wordsOf first = wordsOf second := by
  rw [← splitOn_joinTokens hfirst, ← splitOn_joinTokens hsecond]
  constructor
  · intro h
    rw [h]
  · intro h
    have hrejoined := congrArg [' '].intercalate h
    rw [List.intercalate_splitOn, List.intercalate_splitOn] at hrejoined
    exact String.toList_inj.1 hrejoined

/-- Tokens without spaces are their own words. -/
theorem wordsOf_of_no_spaces {tokens : List String} (hnone : ∀ token ∈ tokens, ' ' ∉ token.toList) :
    wordsOf tokens = tokens.map String.toList := by
  induction tokens with
  | nil => rfl
  | cons token rest ih =>
      rw [List.forall_mem_cons] at hnone
      rw [wordsOf_cons, ih hnone.2, List.splitOn_eq_singleton hnone.1]
      rfl

/-- A character passes through a text unnoticed exactly if the text repeats it. -/
theorem append_singleton_eq_cons_iff {c : Char} {moved : List Char} :
    moved ++ [c] = c :: moved ↔ ∀ d ∈ moved, d = c := by
  induction moved with
  | nil => simp
  | cons d rest ih =>
      rw [List.forall_mem_cons, ← ih, List.cons_append, List.cons.injEq]
      constructor
      · rintro ⟨rfl, hrest⟩
        exact ⟨rfl, hrest⟩
      · rintro ⟨rfl, hrest⟩
        exact ⟨rfl, hrest⟩

/-- The line of a token in front of others. -/
theorem toList_joinTokens_cons (token : String) {rest : List String} (hsome : rest ≠ []) :
    (joinTokens (token :: rest)).toList = token.toList ++ ' ' :: (joinTokens rest).toList := by
  rw [joinTokens, String.intercalate_cons_of_ne_nil hsome, ← joinTokens, String.toList_append,
    String.toList_append, List.append_assoc]
  rfl

/-- Moving characters from the end of a token to the beginning of the next one leaves the line as it
was exactly if only spaces move. -/
theorem joinTokens_moved_iff (front back : List String) (giver moved taker : String) :
    joinTokens (front ++ (giver ++ moved) :: taker :: back) =
        joinTokens (front ++ giver :: (moved ++ taker) :: back) ↔
      ∀ c ∈ moved.toList, c = ' ' := by
  induction front with
  | nil =>
      have htaker : (joinTokens ((moved ++ taker) :: back)).toList =
          moved.toList ++ (joinTokens (taker :: back)).toList := by
        rw [joinTokens, String.intercalate_cons_append, String.toList_append, joinTokens]
      rw [List.nil_append, List.nil_append, ← String.toList_inj,
        toList_joinTokens_cons _ (List.cons_ne_nil _ _),
        toList_joinTokens_cons _ (List.cons_ne_nil _ _), htaker, String.toList_append,
        List.append_assoc, List.append_cancel_left_eq, ← append_singleton_eq_cons_iff,
        List.append_cons, ← List.cons_append, List.append_cancel_right_eq]
  | cons token rest ih =>
      rw [← ih, List.cons_append, List.cons_append, ← String.toList_inj, ← String.toList_inj,
        toList_joinTokens_cons _ (by simp), toList_joinTokens_cons _ (by simp),
        List.append_cancel_left_eq, List.cons.injEq]
      exact and_iff_right rfl

namespace ChangeSet

variable {read : String → FileReading} {first second : ChangeSet} {command other : Command}

/-- Change sets that agree in everything but the arguments of their commands have the same octets
taken in exactly if the lines of the commands are the same. -/
theorem octets_intake_eq_iff_line (hid : first.id = second.id)
    (hauthor : first.author = second.author) (hfiles : first.files = second.files)
    (hcommand : first.command = some command) (hother : second.command = some other)
    (hos : command.os = other.os) (htimeout : command.timeout = other.timeout) :
    (first.intake read).octets = (second.intake read).octets ↔ command.line = other.line := by
  have hentries : first.declaredEntries = second.declaredEntries ↔ command.line = other.line := by
    simp [declaredEntries, hid, hauthor, hcommand, hother, commandEntries, hos, htimeout]
  rw [octets_intake, octets_intake, hfiles, ← hentries]
  constructor
  · intro h
    exact List.append_cancel_right
      (Checksum.entries_of_transcript (fun _ => label_of_entries) (fun _ => label_of_entries) h)
  · intro h
    rw [h]

/-- Consider two change sets that agree in identity, filter, timeout and files. Their digests take
in different octets exactly if the argument vectors of their commands, with every token cut at each
of its spaces, are different. So every difference between argument vectors without spaces is
noticed, and characters that move from one token to the next are noticed exactly if they are not all
spaces. -/
theorem arguments_noticed_iff (hid : first.id = second.id) (hauthor : first.author = second.author)
    (hfiles : first.files = second.files) (hcommand : first.command = some command)
    (hother : second.command = some other) (hos : command.os = other.os)
    (htimeout : command.timeout = other.timeout) :
    ((first.intake read).octets ≠ (second.intake read).octets ↔
      wordsOf (commandLine command.executable command.args) ≠
        wordsOf (commandLine other.executable other.args)) ∧
    (commandLine command.executable command.args ≠ commandLine other.executable other.args →
      (∀ token ∈ commandLine command.executable command.args ++
        commandLine other.executable other.args, ' ' ∉ token.toList) →
      (first.intake read).octets ≠ (second.intake read).octets) ∧
    (∀ (front back : List String) (giver moved taker : String),
      commandLine command.executable command.args =
        front ++ (giver ++ moved) :: taker :: back →
      commandLine other.executable other.args = front ++ giver :: (moved ++ taker) :: back →
      ((first.intake read).octets ≠ (second.intake read).octets ↔
        ∃ c ∈ moved.toList, c ≠ ' ')) := by
  have hline : (first.intake read).octets = (second.intake read).octets ↔
      command.line = other.line :=
    octets_intake_eq_iff_line hid hauthor hfiles hcommand hother hos htimeout
  have hwords : command.line = other.line ↔
      wordsOf (commandLine command.executable command.args) =
        wordsOf (commandLine other.executable other.args) :=
    joinTokens_eq_iff (List.cons_ne_nil _ _) (List.cons_ne_nil _ _)
  refine ⟨not_congr (hline.trans hwords), ?_, ?_⟩
  · intro hdifferent hnone hsame
    rw [List.forall_mem_append] at hnone
    have hsplit := hwords.1 (hline.1 hsame)
    rw [wordsOf_of_no_spaces hnone.1, wordsOf_of_no_spaces hnone.2,
      List.map_inj_right fun _ _ => String.toList_inj.1] at hsplit
    exact hdifferent hsplit
  · intro front back giver moved taker hgiver htaker
    have hmoved := joinTokens_moved_iff front back giver moved taker
    rw [← hgiver, ← htaker] at hmoved
    rw [Ne, hline.trans hmoved]
    push Not
    rfl

/-- A change set that runs `rm` with the given arguments. -/
def removing (args : List String) : ChangeSet where
  id := "1"
  author := "ops"
  command := some { executable := "rm", args := args }

/-- Files that cannot be read. -/
def noFiles : String → FileReading :=
  fun _ => .refused .notFound

/-- A letter that moves from one argument to the next is noticed. -/
theorem moved_letter_noticed :
    (removing ["ab", "c"]).id = (removing ["a", "bc"]).id ∧
    (removing ["ab", "c"]).author = (removing ["a", "bc"]).author ∧
    (removing ["ab", "c"]).files = (removing ["a", "bc"]).files ∧
    ((removing ["ab", "c"]).intake noFiles).octets ≠
      ((removing ["a", "bc"]).intake noFiles).octets := by
  have hid : (removing ["ab", "c"]).id = (removing ["a", "bc"]).id := rfl
  have hauthor : (removing ["ab", "c"]).author = (removing ["a", "bc"]).author := rfl
  have hfiles : (removing ["ab", "c"]).files = (removing ["a", "bc"]).files := rfl
  obtain ⟨_, _, hmoved⟩ :=
    @arguments_noticed_iff noFiles _ _ _ _ hid hauthor hfiles rfl rfl rfl rfl
  refine ⟨hid, hauthor, hfiles, ?_⟩
  exact (hmoved ["rm"] [] "a" "b" "c" rfl rfl).2 ⟨'b', by decide, by decide⟩

/-- A space inside an argument that becomes a boundary between two arguments goes unnoticed, although
the argument vectors are different and everything else is the same. -/
theorem boundary_goes_unnoticed :
    (removing ["a b"]).id = (removing ["a", "b"]).id ∧
    (removing ["a b"]).author = (removing ["a", "b"]).author ∧
    (removing ["a b"]).files = (removing ["a", "b"]).files ∧
    (∃ command other : Command, (removing ["a b"]).command = some command ∧
      (removing ["a", "b"]).command = some other ∧
      command.os = other.os ∧ command.timeout = other.timeout ∧
      commandLine command.executable command.args = ["rm", "a b"] ∧
      commandLine other.executable other.args = ["rm", "a", "b"] ∧
      ["rm", "a b"] ≠ ["rm", "a", "b"]) ∧
    ((removing ["a b"]).intake noFiles).octets = ((removing ["a", "b"]).intake noFiles).octets := by
  refine ⟨rfl, rfl, rfl, ⟨_, _, rfl, rfl, rfl, rfl, rfl, rfl, by decide⟩, ?_⟩
  refine (octets_intake_eq_iff_line rfl rfl rfl rfl rfl rfl rfl).2 ?_
  exact (joinTokens_eq_iff (List.cons_ne_nil _ _) (List.cons_ne_nil _ _)).2 (by decide)

end ChangeSet

end Runbook
