import Mathlib.Data.List.Forall2
import Runbook.Changelog.Document
import Runbook.Proofs.Toml.Ascending

/-!
# Reading records

A record is read entry by entry from a table, and each entry is judged by its key. This module says
once, for records of every kind, what the entries amount to: reading succeeds if every entry fits and
every declared key has a value of its type (`record_reads_iff`), a field is read from the value under
its key and keeps its default without one (`told_of_record`), and nothing depends on the entries
under other keys (`record_of_part`).
-/

namespace Runbook.Document

open Toml (Value entriesFit)

/-- The declared keys of a record, each with the type of its values. -/
abbrev Types := List (String × (Value → Prop))

namespace Types

/-- The declared keys. -/
def keys (types : Types) : List String :=
  types.map Prod.fst

/-- An entry is admissible: if its key is declared, its value is of the type. -/
def Admit (types : Types) (entry : String × Value) : Prop :=
  ∀ type, types.lookup entry.1 = some type → type entry.2

/-- Every declared key that is present has a value of its type. -/
def Hold (types : Types) (entries : List (String × Value)) : Prop :=
  ∀ entry ∈ entries, types.Admit entry

/-- What counts among entries: those under declared keys, and what counts within their values. -/
def part (types : Types) (within : String → Value → Value) (entries : List (String × Value)) :
    List (String × Value) :=
  (entries.filter fun entry => entry.1 ∈ types.keys).map fun entry =>
    (entry.1, within entry.1 entry.2)

end Types

/-- A value is a text. -/
def TextOf (value : Value) (found : String) : Prop :=
  value = .text found

/-- A value is an array of texts. -/
def TextsOf (value : Value) (found : List String) : Prop :=
  value = .array (found.map .text)

/-- A value is a text that names something. -/
def NameOf {α : Type} (parse : String → Except String α) (value : Value) (found : α) : Prop :=
  ∃ name, value = .text name ∧ parse name = .ok found

/-- What may be absent is present. -/
def Given {α : Type} (reads : Value → α → Prop) (value : Value) (found : Option α) : Prop :=
  ∃ item, found = some item ∧ reads value item

/-- A value is a table whose entries tell a record. -/
def RecordOf {α : Type} (told : List (String × Value) → α → Prop) (value : Value) (found : α) :
    Prop :=
  ∃ entries, value = .table entries ∧ told entries found

/-- Something can be read from a value. -/
def Reads {α : Type} (reads : Value → α → Prop) (value : Value) : Prop :=
  ∃ found, reads value found

/-- The part of a table that counts. Other values count as a whole. -/
def Types.tablePart (types : Types) (within : String → Value → Value) : Value → Value
  | .table entries => .table (types.part within entries)
  | value => value

/-- A value is a table in which every declared key that is present has a value of its type. -/
def IsRecord (types : Types) (value : Value) : Prop :=
  ∃ entries, value = .table entries ∧ types.Hold entries

/-- A value that is read as a record although it is no table. -/
def PassesForRecord (value : Value) : Prop :=
  (∃ items, value = .array items) ∨ ∃ spelling, value = .moment spelling

/-- A field is what is read from the value under its key, or else its default. -/
def Told {α : Type} (entries : List (String × Value)) (key : String) (reads : Value → α → Prop)
    (default found : α) : Prop :=
  match entries.lookup key with
  | none => found = default
  | some value => reads value found

variable {α β ρ : Type} {key : String} {value : Value} {values : List Value}
  {entries : List (String × Value)} {types : Types} {type : Value → Prop}
  {step : ρ → String × Value → Reading ρ} {record final : ρ}

theorem Types.admit_of_lookup (h : types.lookup key = some type) :
    types.Admit (key, value) ↔ type value := by
  simp [Admit, h]

theorem Types.admit_of_undeclared (h : types.lookup key = none) : types.Admit (key, value) := by
  simp [Admit, h]

theorem Types.lookup_eq_none_iff : types.lookup key = none ↔ key ∉ types.keys := by
  simp only [keys, List.lookup_eq_none_iff, List.mem_map, not_exists, not_and, bne_iff_ne, ne_eq]
  exact forall₂_congr fun entry _ => not_congr eq_comm

/-- Entries under other keys do not count, whether they are there or not. -/
theorem Types.part_of_undeclared {within : String → Value → Value} (h : key ∉ types.keys)
    (before after : List (String × Value)) :
    types.part within (before ++ (key, value) :: after) = types.part within (before ++ after) := by
  simp [part, h]

theorem entriesFit_iff : entriesFit entries = true ↔ ∀ entry ∈ entries, entry.2.fits = true := by
  induction entries with
  | nil => simp [entriesFit]
  | cons entry rest ih => simp [entriesFit, ih]

theorem itemsFit_iff : Toml.itemsFit values = true ↔ ∀ value ∈ values, value.fits = true := by
  induction values with
  | nil => simp [Toml.itemsFit]
  | cons value rest ih => simp [Toml.itemsFit, ih]

/-- A reading that is passed on comes from a reading of what it is passed on from. -/
theorem pass_eq_ok_iff {reading : Reading α} {pass : α → β} {result : β} :
    (do let found ← reading; return pass found) = .ok result ↔
      ∃ found, reading = .ok found ∧ pass found = result := by
  cases reading with
  | error fault => simp [bind, Except.bind]
  | ok found => simp [bind, Except.bind, pure, Except.pure]

/-- A reading that is passed on succeeds exactly if it does. -/
theorem pass_reads_iff {reading : Reading α} {pass : α → β} :
    (∃ result, (do let found ← reading; return pass found) = .ok result) ↔
      ∃ found, reading = .ok found := by
  simp only [pass_eq_ok_iff]
  exact ⟨fun ⟨_, found, h, _⟩ => ⟨found, h⟩, fun ⟨found, h⟩ => ⟨_, found, h, rfl⟩⟩

theorem text_eq_ok_iff {found : String} : text value = .ok found ↔ TextOf value found := by
  cases value <;> simp [text, TextOf]

theorem named_eq_ok_iff {parse : String → Except String α} {found : α} :
    named parse value = .ok found ↔ NameOf parse value found := by
  cases value with
  | text name =>
      simp only [named, text, NameOf, bind, Except.bind, Value.text.injEq, exists_eq_left']
      cases parse name <;> simp [Except.mapError]
  | _ => simp [named, text, NameOf, bind, Except.bind]

/-- Items are read one by one. -/
theorem mapM_eq_ok_iff {read : Value → Reading α} {found : List α} :
    values.mapM read = .ok found ↔ List.Forall₂ (fun value item => read value = .ok item) values found
    := by
  induction values generalizing found with
  | nil => simp [pure, Except.pure, eq_comm]
  | cons value rest ih =>
      rw [List.mapM_cons, List.forall₂_cons_left_iff]
      cases hfirst : read value with
      | error fault => simp [bind, Except.bind]
      | ok item =>
          cases hrest : rest.mapM read with
          | error fault => simp [bind, Except.bind, ← ih, hrest]
          | ok items => simp [bind, Except.bind, pure, Except.pure, ← ih, hrest, eq_comm]

theorem items_eq_ok_iff {read : Value → Reading α} {found : List α} :
    items read value = .ok found ↔
      ∃ values, value = .array values ∧
        List.Forall₂ (fun value item => read value = .ok item) values found := by
  cases value <;> simp [items, mapM_eq_ok_iff]

/-- All items can be read if each of them can. -/
theorem mapM_reads_iff {read : Value → Reading α} :
    (∃ found, values.mapM read = .ok found) ↔ ∀ value ∈ values, ∃ item, read value = .ok item := by
  induction values with
  | nil => simp [pure, Except.pure]
  | cons value rest ih =>
      rw [List.mapM_cons, List.forall_mem_cons, ← ih]
      cases read value with
      | error fault => simp [bind, Except.bind]
      | ok item =>
          cases rest.mapM read with
          | error fault => simp [bind, Except.bind]
          | ok items => simp [bind, Except.bind, pure, Except.pure]

theorem items_read_iff {read : Value → Reading α} :
    (∃ found, items read value = .ok found) ↔
      ∃ values, value = .array values ∧ ∀ value ∈ values, ∃ item, read value = .ok item := by
  cases value <;> simp [items, mapM_reads_iff]

theorem texts_eq_ok_iff {found : List String} :
    items text value = .ok found ↔ TextsOf value found := by
  have hitems : ∀ values, List.Forall₂ (fun value item => text value = .ok item) values found ↔
      values = found.map .text := by
    intro values
    simp only [text_eq_ok_iff, TextOf]
    rw [← List.forall₂_map_right_iff (R := Eq), List.forall₂_eq_eq_eq]
  simp only [items_eq_ok_iff, hitems, exists_eq_right, TextsOf]

/-- A text can be read if there is one, and then it fits. -/
theorem text_reads_iff : (∃ found, text value = .ok found) ↔
    value.fits = true ∧ Reads TextOf value := by
  simp only [text_eq_ok_iff]
  refine ⟨fun ⟨found, h⟩ => ⟨?_, found, h⟩, And.right⟩
  cases h
  rfl

/-- An array of texts can be read if there is one, and then it fits. -/
theorem texts_reads_iff : (∃ found, items text value = .ok found) ↔
    value.fits = true ∧ Reads TextsOf value := by
  simp only [texts_eq_ok_iff]
  refine ⟨fun ⟨found, h⟩ => ⟨?_, found, h⟩, And.right⟩
  cases h
  rw [Value.fits, itemsFit_iff, List.forall_mem_map]
  exact fun _ _ => rfl

/-- A name can be read if it names something, and then it fits. -/
theorem named_reads_iff {parse : String → Except String α} :
    (∃ found, named parse value = .ok found) ↔
      value.fits = true ∧ Reads (NameOf parse) value := by
  simp only [named_eq_ok_iff]
  refine ⟨fun ⟨found, h⟩ => ⟨?_, found, h⟩, And.right⟩
  obtain ⟨name, rfl, -⟩ := h
  rfl

theorem ignoring_eq_ok_iff : ignoring record value = .ok final ↔ value.fits = true ∧ final = record := by
  rw [ignoring]
  split
  · simp_all only [Except.ok.injEq, true_and, eq_comm]
  · simp_all

/-- An entry under a declared key is admissible if its value can be read. -/
theorem declared_reads_iff {reading : Reading α} {pass : α → ρ}
    (hlookup : types.lookup key = some type)
    (hreads : (∃ found, reading = .ok found) ↔ value.fits = true ∧ type value) :
    (∃ next, (do let found ← reading; return pass found) = .ok next) ↔
      value.fits = true ∧ types.Admit (key, value) := by
  rw [pass_reads_iff, hreads, Types.admit_of_lookup hlookup]

/-- An entry under another key only has to fit. -/
theorem undeclared_reads_iff (h : key ∉ types.keys) :
    (∃ next, ignoring record value = .ok next) ↔
      value.fits = true ∧ types.Admit (key, value) := by
  simp [ignoring_eq_ok_iff, Types.admit_of_undeclared (Types.lookup_eq_none_iff.2 h)]

/-- Reading a record succeeds exactly if every entry fits and every declared key has a value of its
type, provided that each entry by itself is judged in this way. -/
theorem record_reads_iff
    (hstep : ∀ entry ∈ entries, ∀ record, (∃ next, step record entry = .ok next) ↔
      entry.2.fits = true ∧ types.Admit entry) :
    (∃ final, entries.foldlM step record = .ok final) ↔
      entriesFit entries = true ∧ types.Hold entries := by
  rw [entriesFit_iff, Types.Hold, ← forall₂_and]
  induction entries generalizing record with
  | nil => simp [pure, Except.pure]
  | cons entry rest ih =>
      rw [List.forall_mem_cons] at hstep
      rw [List.foldlM_cons, List.forall_mem_cons, ← hstep.1 record]
      cases step record entry with
      | error fault => simp [bind, Except.bind]
      | ok next =>
          -- Which entries can be read does not depend on the record, so any next one will do.
          have hrest : (∃ final, rest.foldlM step next = .ok final) ↔ _ := ih hstep.2
          rw [← hrest]
          simp [bind, Except.bind]

/-- A field is told by the entries if it is set by the value under its key and by no other. -/
theorem told_of_record {field : ρ → α} {reads : Value → α → Prop} {reading : Value → Reading β}
    {pass : ρ → β → ρ}
    (hkey : ∀ record value, step record (key, value) =
      do let found ← reading value; return pass record found)
    (hreads : ∀ value, (key, value) ∈ entries → ∀ record found, reading value = .ok found →
      reads value (field (pass record found)))
    (hother : ∀ record entry next, step record entry = .ok next → entry.1 ≠ key →
      field next = field record)
    (hkeys : entries.Pairwise fun first second => first.1 < second.1)
    (h : entries.foldlM step record = .ok final) :
    Told entries key reads (field record) (field final) := by
  induction entries generalizing record with
  | nil =>
      cases h
      rfl
  | cons entry rest ih =>
      rw [List.pairwise_cons] at hkeys
      rw [List.foldlM_cons] at h
      cases hnext : step record entry with
      | error fault =>
          rw [hnext] at h
          cases h
      | ok next =>
          rw [hnext] at h
          have hrest := ih (fun value hmem => hreads value (List.mem_cons_of_mem _ hmem)) hkeys.2 h
          obtain ⟨other, value⟩ := entry
          by_cases hsame : other = key
          · -- No later entry has the same key, so the field stays as it is.
            subst hsame
            have hlast : rest.lookup other = none := List.lookup_eq_none_iff.2 fun entry hmem =>
              bne_iff_ne.2 fun heq => String.lt_irrefl _ (heq ▸ hkeys.1 entry hmem)
            rw [Told, hlast] at hrest
            rw [hkey] at hnext
            obtain ⟨found, hfound, rfl⟩ := pass_eq_ok_iff.1 hnext
            simp only [Told, List.lookup_cons, beq_self_eq_true, hrest]
            exact hreads value List.mem_cons_self record found hfound
          · have hskip : ((other, value) :: rest).lookup key = rest.lookup key := by
              rw [List.lookup_cons, beq_false_of_ne (Ne.symm hsame)]
            rwa [Told, hskip, ← hother record (other, value) next hnext hsame]

/-- If all other keys are ignored, a record is read from what counts among its entries. -/
theorem record_of_part {within : String → Value → Value}
    (hother : ∀ {key value}, key ∉ types.keys → ∀ record,
      step record (key, value) = ignoring record value)
    (hwithin : ∀ key value record, value.fits = true →
      step record (key, within key value) = step record (key, value))
    (hfit : entriesFit entries = true) :
    (types.part within entries).foldlM step record = entries.foldlM step record := by
  rw [entriesFit_iff] at hfit
  induction entries generalizing record with
  | nil => rfl
  | cons entry rest ih =>
      rw [List.forall_mem_cons] at hfit
      rw [Types.part, List.filter_cons]
      split
      · rw [List.map_cons, List.foldlM_cons, List.foldlM_cons, hwithin _ _ _ hfit.1]
        exact bind_congr fun next => ih hfit.2
      · rename_i hundeclared
        have hkey : entry.1 ∉ types.keys := fun hmem => hundeclared (decide_eq_true hmem)
        have hsame : step record entry = .ok record := (hother hkey record).trans (if_pos hfit.1)
        rw [List.foldlM_cons, hsame]
        exact ih hfit.2

/-- In a table, a record is read from the entries. -/
theorem record_of_table {names : List String} (hform : ¬ PassesForRecord value)
    (h : (do (← fields names value).foldlM step record) = .ok final) :
    ∃ entries, value = .table entries ∧ entries.foldlM step record = .ok final := by
  cases value with
  | table entries => exact ⟨entries, rfl, h⟩
  | array items => exact absurd (.inl ⟨items, rfl⟩) hform
  | moment spelling => exact absurd (.inr ⟨spelling, rfl⟩) hform
  | _ => cases h

/-- A value that does not pass for a record is read as one exactly if it is one and fits. -/
theorem value_reads_iff {names : List String} (hform : ¬ PassesForRecord value)
    (hstep : ∀ entries, value = .table entries → ∀ entry ∈ entries, ∀ record,
      (∃ next, step record entry = .ok next) ↔ entry.2.fits = true ∧ types.Admit entry) :
    (∃ final, (do (← fields names value).foldlM step record) = .ok final) ↔
      value.fits = true ∧ IsRecord types value := by
  constructor
  · rintro ⟨final, h⟩
    obtain ⟨entries, rfl, hentries⟩ := record_of_table hform h
    obtain ⟨hfit, hhold⟩ := (record_reads_iff (hstep entries rfl)).1 ⟨final, hentries⟩
    exact ⟨by rwa [Value.fits], entries, rfl, hhold⟩
  · rintro ⟨hfits, entries, rfl, hhold⟩
    rw [Value.fits] at hfits
    exact (record_reads_iff (hstep entries rfl)).2 ⟨hfits, hhold⟩

/-- So is a record in a value, which counts as a whole if it is no table. -/
theorem value_of_part {names : List String} {within : String → Value → Value}
    (hother : ∀ {key value}, key ∉ types.keys → ∀ record,
      step record (key, value) = ignoring record value)
    (hwithin : ∀ key value record, value.fits = true →
      step record (key, within key value) = step record (key, value))
    (hfits : value.fits = true) :
    (do (← fields names (types.tablePart within value)).foldlM step record) =
      (do (← fields names value).foldlM step record) := by
  cases value with
  | table entries => exact record_of_part hother hwithin hfits
  | _ => rfl

end Runbook.Document
