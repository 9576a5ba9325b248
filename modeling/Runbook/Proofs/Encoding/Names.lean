import Runbook.Encoding
import Runbook.Mode
import Runbook.Proofs.Text.Casing
import Runbook.Proofs.Text.Trimming

/-!
# Names of encodings and modes

A changelog names its encoding and its mode, and both may be written in several ways. The texts that
name an encoding are given by five words and by the characters that stand for their letters, and
those that name a mode by three words and the case of US-ASCII. The main theorem is
`names_read_exactly`.
-/

namespace Runbook

/-- Characters without the hyphens and underscores among them. -/
def withoutDashes (cs : List Char) : List Char :=
  cs.filter fun c => c != '-' && c != '_'

/-- The characters of a name that tell encodings apart, as they are written. -/
def bareName (name : String) : List Char :=
  withoutDashes (Text.trimChars name.toList)

/-- Characters spell a word if each of them stands for the letter or digit in its place. -/
def Spell (cs : List Char) (word : String) : Prop :=
  List.Forall₂ Text.StandsFor cs word.toList

/-- A text is another way to write a name: there may be white space around it, hyphens and
underscores within it count for nothing, and all other characters stand for those of the name. -/
def Rewrites (text name : String) : Prop :=
  ∃ before core after, text.toList = before ++ core ++ after ∧
    (∀ c ∈ before, Text.isBlank c = true) ∧ (∀ c ∈ after, Text.isBlank c = true) ∧
    List.Forall₂ Text.StandsFor (withoutDashes core) (withoutDashes name.toList)

/-- A text is a word of US-ASCII, but for the case of letters and for white space around it. -/
def Recases (text word : String) : Prop :=
  (Text.trimChars text.toList).map Char.toLower = word.toList

/-- The words for an encoding, without hyphens. -/
def OutputEncoding.words : OutputEncoding → List String
  | .utf8 => ["UTF8"]
  | .latin1 => ["ISO88591", "LATIN1"]
  | .ascii => ["USASCII", "ASCII"]

/-- The words for a mode. -/
def ExecutionMode.words : ExecutionMode → List String
  | .live => ["live"]
  | .logOnly => ["log-only", "log_only"]

variable {text name word : String} {cs core : List Char} {c d : Char} {encoding : OutputEncoding}
  {mode : ExecutionMode}

/-- A character that stands for one that is not white space is no white space. -/
theorem not_blank_of_standsFor (h : Text.StandsFor c d) (hd : Text.IsAscii d)
    (hblank : Text.isBlank d = false) : Text.isBlank c = false := by
  rcases h with rfl | ⟨rfl, -⟩ | ⟨rfl, -⟩
  · by_cases hc : Text.IsAscii c
    · exact Text.of_ascii
        (p := fun c => Text.isBlank c.toUpper = false → Text.isBlank c = false)
        (by decide) hc hblank
    · rw [Text.toUpper_of_not_ascii hc] at hd
      exact absurd hd hc
  · decide
  · decide

/-- Each character of a spelling stands for one of the word. -/
theorem exists_standsFor {letters : List Char} (h : List.Forall₂ Text.StandsFor cs letters)
    (hc : c ∈ cs) : ∃ d ∈ letters, Text.StandsFor c d := by
  induction h with
  | nil => cases hc
  | cons hfirst _ ih =>
      rcases List.mem_cons.1 hc with rfl | hrest
      · exact ⟨_, List.mem_cons_self, hfirst⟩
      · obtain ⟨d, hmem, hd⟩ := ih hrest
        exact ⟨d, List.mem_cons_of_mem _ hmem, hd⟩

/-- Characters are those of a text if they make up the text. -/
theorem ofList_eq_iff : String.ofList cs = text ↔ cs = text.toList := by
  rw [← String.toList_inj, String.toList_ofList]

/-- The words for encodings are written in US-ASCII. -/
theorem ascii_of_mem_words (hword : word ∈ encoding.words) : ∀ d ∈ word.toList, Text.IsAscii d := by
  have hall : ∀ encoding : OutputEncoding, ∀ word ∈ encoding.words,
      (word.toList.all fun d => Text.IsAscii d) = true := by
    rintro (_ | _ | _) <;> decide
  exact List.all_iff_forall_prop.1 (hall encoding word hword)

/-- The words for encodings have no spellings but those character by character. -/
theorem upper_eq_word_iff (hword : word ∈ encoding.words) :
    cs.flatMap Text.upperOf = word.toList ↔ Spell cs word := by
  have hplain : ∀ encoding : OutputEncoding, ∀ word ∈ encoding.words,
      ∀ letters ∈ Text.ligatures, ¬ letters <:+: word.toList := by
    rintro (_ | _ | _) <;> decide +kernel
  exact Text.upper_eq_iff (ascii_of_mem_words hword) (hplain encoding word hword)

/-- A name is read as an encoding if its upper-case form is one of the words for it. -/
theorem ofName?_eq_some_iff :
    OutputEncoding.ofName? name = some encoding ↔
      ∃ word ∈ encoding.words, (bareName name).flatMap Text.upperOf = word.toList := by
  have hnormal : OutputEncoding.normalize name = (bareName name).flatMap Text.upperOf := rfl
  simp only [← hnormal, ← ofList_eq_iff]
  rw [OutputEncoding.ofName?]
  split <;> cases encoding <;> simp_all [OutputEncoding.words]

/-- The texts that are read as an encoding are the spellings of its words. -/
theorem encoding_parse_eq_ok_iff :
    OutputEncoding.parse name = .ok encoding ↔ ∃ word ∈ encoding.words, Spell (bareName name) word := by
  have hspell : (∃ word ∈ encoding.words, Spell (bareName name) word) ↔
      OutputEncoding.ofName? name = some encoding := by
    rw [ofName?_eq_some_iff]
    exact exists_congr fun word => and_congr_right fun hword => (upper_eq_word_iff hword).symm
  rw [hspell, OutputEncoding.parse]
  cases OutputEncoding.ofName? name with
  | none => simp
  | some found => simp

/-- What stands for a character of US-ASCII is in US-ASCII itself or one of two letters outside. -/
theorem Text.StandsFor.cases (h : Text.StandsFor c d) (hd : Text.IsAscii d) :
    Text.IsAscii c ∨ c = 'ı' ∨ c = 'ſ' := by
  rcases h with rfl | ⟨rfl, -⟩ | ⟨rfl, -⟩
  · by_cases hc : Text.IsAscii c
    · exact .inl hc
    · rw [Text.toUpper_of_not_ascii hc] at hd
      exact .inl hd
  · exact .inr (.inl rfl)
  · exact .inr (.inr rfl)

/-- Another way to write a name leaves, once it is trimmed, the characters that stand for those of the
name. -/
theorem Rewrites.spells (h : Rewrites text name)
    (hname : ∀ d ∈ name.toList, Text.IsAscii d ∧ Text.isBlank d = false) :
    List.Forall₂ Text.StandsFor (bareName text) (withoutDashes name.toList) := by
  obtain ⟨before, core, after, htext, hbefore, hafter, hcore⟩ := h
  have hsolid : ∀ c ∈ core, Text.isBlank c = false := by
    intro c hmem
    by_cases hdash : c = '-' ∨ c = '_'
    · rcases hdash with rfl | rfl <;> decide
    · have hkept : c ∈ withoutDashes core := by
        simpa [withoutDashes, hmem, not_or] using hdash
      obtain ⟨d, hd, hstands⟩ := exists_standsFor hcore hkept
      have hletter := hname d (List.mem_of_mem_filter hd)
      exact not_blank_of_standsFor hstands hletter.1 hletter.2
  -- Trimming stops at the core, since nothing in it is white space.
  rw [bareName, htext, Text.trimChars_of_surrounded hbefore hafter
    (fun c hc => hsolid c (List.mem_of_mem_head? hc))
    (fun c hc => hsolid c (List.mem_of_mem_getLast? hc))]
  exact hcore

/-- The words for modes are written in US-ASCII and without k. -/
theorem plain_of_mem_words (hword : word ∈ mode.words) :
    ∀ d ∈ word.toList, Text.IsAscii d ∧ d ≠ 'k' := by
  have hall : ∀ mode : ExecutionMode, ∀ word ∈ mode.words,
      (word.toList.all fun d => Text.IsAscii d ∧ d ≠ 'k') = true := by
    rintro (_ | _) <;> decide
  exact List.all_iff_forall_prop.1 (hall mode word hword)

/-- The lower-case form of a trimmed text is a word for a mode exactly if the text is that word, but
for the case of letters. -/
theorem lower_trim_eq_iff (hword : word ∈ mode.words) :
    Text.lower (Text.trim text) = word ↔ Recases text word := by
  rw [Text.lower, Text.trim, String.toList_ofList, ofList_eq_iff, Recases,
    Text.lower_eq_iff (plain_of_mem_words hword)]

/-- The texts that are read as a mode are its words but for the case of letters. -/
theorem mode_parse_eq_ok_iff :
    ExecutionMode.parse name = .ok mode ↔ ∃ word ∈ mode.words, Recases name word := by
  have hwords : (∃ word ∈ mode.words, Recases name word) ↔
      Text.lower (Text.trim name) ∈ mode.words := by
    constructor
    · rintro ⟨word, hword, hname⟩
      rwa [(lower_trim_eq_iff hword).2 hname]
    · intro hword
      exact ⟨_, hword, (lower_trim_eq_iff hword).1 rfl⟩
  rw [hwords, ExecutionMode.parse]
  split <;> cases mode <;> simp_all [ExecutionMode.words]

/-- Hyphens apart, the canonical name of an encoding is one of the words for it. -/
theorem canonical_mem_words (encoding : OutputEncoding) :
    String.ofList (withoutDashes encoding.name.toList) ∈ encoding.words := by
  cases encoding <;> decide

/-- Canonical names are in US-ASCII and contain no white space. -/
theorem canonical_name_solid (encoding : OutputEncoding) :
    ∀ d ∈ encoding.name.toList, Text.IsAscii d ∧ Text.isBlank d = false := by
  refine List.all_iff_forall_prop.1 ?_
  cases encoding <;> decide

/-- However the canonical name of an encoding is written, it is read as that encoding. -/
theorem Rewrites.parse (h : Rewrites name encoding.name) :
    OutputEncoding.parse name = .ok encoding := by
  refine encoding_parse_eq_ok_iff.2 ⟨_, canonical_mem_words encoding, ?_⟩
  rw [Spell, String.toList_ofList]
  exact h.spells (canonical_name_solid encoding)

/-- What a name of an encoding consists of: US-ASCII and two letters outside, none of which has an
upper-case form of several characters. -/
theorem encoding_letters (h : OutputEncoding.parse name = .ok encoding) (hc : c ∈ bareName name) :
    (Text.IsAscii c ∨ c = 'ı' ∨ c = 'ſ') ∧ ∃ capital, Text.upperOf c = [capital] := by
  obtain ⟨word, hword, hspell⟩ := encoding_parse_eq_ok_iff.1 h
  obtain ⟨capital, hmem, hstands⟩ := exists_standsFor hspell hc
  have hascii := ascii_of_mem_words hword capital hmem
  exact ⟨hstands.cases hascii, capital, (Text.upperOf_eq_singleton_iff hascii).2 hstands⟩

/-- What a name of a mode consists of, apart from the white space around it: US-ASCII. -/
theorem mode_letters (h : ExecutionMode.parse name = .ok mode) :
    ∀ c ∈ Text.trimChars name.toList, Text.IsAscii c := by
  obtain ⟨word, hword, hname⟩ := mode_parse_eq_ok_iff.1 h
  refine fun c hmem => by_contra fun hc => ?_
  have hlower : c.toLower ∈ word.toList := hname ▸ List.mem_map_of_mem hmem
  rw [Text.toLower_of_not_ascii hc] at hlower
  exact hc (plain_of_mem_words hword c hlower).1

/-- Without outer white space, hyphens and underscores, the names of an encoding are the spellings of
its words, in which no character has an upper-case form of several characters. Without outer white
space, the names of a mode are its words but for the case of US-ASCII. However the canonical name of
an encoding is written, it is read as that encoding. -/
theorem names_read_exactly (name : String) :
    (∀ encoding, OutputEncoding.parse name = .ok encoding ↔
      ∃ word ∈ encoding.words, Spell (bareName name) word) ∧
    (∀ encoding, OutputEncoding.parse name = .ok encoding → ∀ c ∈ bareName name,
      (Text.IsAscii c ∨ c = 'ı' ∨ c = 'ſ') ∧ ∃ capital, Text.upperOf c = [capital]) ∧
    (∀ mode, ExecutionMode.parse name = .ok mode ↔ ∃ word ∈ mode.words, Recases name word) ∧
    (∀ mode, ExecutionMode.parse name = .ok mode →
      ∀ c ∈ Text.trimChars name.toList, Text.IsAscii c) ∧
    ∀ encoding : OutputEncoding, Rewrites name encoding.name →
      OutputEncoding.parse name = .ok encoding :=
  ⟨fun _ => encoding_parse_eq_ok_iff, fun _ h _ hc => encoding_letters h hc,
    fun _ => mode_parse_eq_ok_iff, fun _ h => mode_letters h, fun _ h => h.parse⟩

/-- Padded, hyphenated anew and with letters from outside US-ASCII, the canonical name of an encoding
is read as that encoding, and a mode is recognised in capitals. -/
theorem names_read_in_disguise :
    (Rewrites " Uſ_-aſcıi\u3000" OutputEncoding.ascii.name ∧
      OutputEncoding.parse " Uſ_-aſcıi\u3000" = .ok .ascii ∧
      ∀ c ∈ bareName " Uſ_-aſcıi\u3000", ∃ capital, Text.upperOf c = [capital]) ∧
    ExecutionMode.parse "\u3000LOG_only" = .ok .logOnly ∧
      ∀ c ∈ Text.trimChars "\u3000LOG_only".toList, Text.IsAscii c := by
  have hname : Rewrites " Uſ_-aſcıi\u3000" OutputEncoding.ascii.name := by
    refine ⟨[' '], "Uſ_-aſcıi".toList, ['\u3000'], by decide,
      List.forall_mem_singleton.2 (by decide), List.forall_mem_singleton.2 (by decide), ?_⟩
    have hcore : withoutDashes "Uſ_-aſcıi".toList = ['U', 'ſ', 'a', 'ſ', 'c', 'ı', 'i'] := by
      decide
    have hword : withoutDashes OutputEncoding.ascii.name.toList =
        ['U', 'S', 'A', 'S', 'C', 'I', 'I'] := by
      decide
    rw [hcore, hword]
    simp [Text.StandsFor]
  obtain ⟨-, hletters, -, -, hback⟩ := names_read_exactly " Uſ_-aſcıi\u3000"
  obtain ⟨-, -, hmodes, hascii, -⟩ := names_read_exactly "\u3000LOG_only"
  have hparse := hback .ascii hname
  have hmode : ExecutionMode.parse "\u3000LOG_only" = .ok .logOnly :=
    (hmodes .logOnly).2 ⟨"log_only", by decide, by rw [Recases]; decide⟩
  exact ⟨⟨hname, hparse, fun c hc => (hletters .ascii hparse c hc).2⟩, hmode, hascii _ hmode⟩

end Runbook
