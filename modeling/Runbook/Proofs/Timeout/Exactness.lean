import Mathlib.Algebra.Group.Nat.Defs
import Runbook.Proofs.Timeout.Grammar

/-!
# Timeouts are read exactly

A `Reading` cuts a text into the parts that the grammar of timeouts names. A text has at most one
sequence of digits and one unit by which it can be read, and it is accepted with the product of both
exactly if that product fits into 64 bits. The validation of a timeout and its lenient form say the
same, and white space around a text makes no difference to any of them. The main theorem is
`read_exactly`.
-/

namespace Runbook.Timeout

/-- The unit of a timeout with its milliseconds: nothing or one letter, in either case. -/
inductive UnitWritten : List Char → Nat → Prop
  | missing : UnitWritten [] 1000
  | seconds {c : Char} (hletter : c = 's' ∨ c = 'S') : UnitWritten [c] 1000
  | minutes {c : Char} (hletter : c = 'm' ∨ c = 'M') : UnitWritten [c] 60000
  | hours {c : Char} (hletter : c = 'h' ∨ c = 'H') : UnitWritten [c] 3600000

/-- A text cut into white space, digits, white space, perhaps a unit, and white space. -/
structure Reading (characters : List Char) where
  before : List Char
  digits : List Char
  gap : List Char
  letters : List Char
  after : List Char
  factor : Nat
  whole : characters = before ++ digits ++ gap ++ letters ++ after
  blank_before : ∀ c ∈ before, Text.isBlank c = true
  some_digit : digits ≠ []
  all_digits : ∀ c ∈ digits, c.isDigit = true
  blank_gap : ∀ c ∈ gap, Text.isBlank c = true
  unit : UnitWritten letters factor
  blank_after : ∀ c ∈ after, Text.isBlank c = true

/-- The milliseconds of a reading, whatever their size: the number with the digits of the reading in
the decimal system, times its unit. -/
def Reading.millis {characters : List Char} (reading : Reading characters) : Nat :=
  Nat.ofDigits 10 (reading.digits.reverse.map fun digit => digit.toNat - 48) * reading.factor

/-- The units are those of the grammar, with their milliseconds. -/
theorem unit_written_iff {letters : List Char} {factor : Nat} :
    UnitWritten letters factor ↔ ∃ scale, UnitSpelled letters scale ∧ scale.millis = factor := by
  constructor
  · rintro (_ | hletter | hletter | hletter)
    · exact ⟨.seconds, .missing, rfl⟩
    · exact ⟨.seconds, by rcases hletter with rfl | rfl <;> exact .letter rfl, rfl⟩
    · exact ⟨.minutes, by rcases hletter with rfl | rfl <;> exact .letter rfl, rfl⟩
    · exact ⟨.hours, by rcases hletter with rfl | rfl <;> exact .letter rfl, rfl⟩
  · rintro ⟨scale, hunit, rfl⟩
    cases hunit with
    | missing => exact .missing
    | letter hletter =>
        unfold Scale.ofLetter? at hletter
        split at hletter <;> cases hletter
        · exact .seconds (.inl rfl)
        · exact .seconds (.inr rfl)
        · exact .minutes (.inl rfl)
        · exact .minutes (.inr rfl)
        · exact .hours (.inl rfl)
        · exact .hours (.inr rfl)

/-- The letter of a unit is neither white space nor a digit. -/
theorem UnitWritten.proper {letters : List Char} {factor : Nat} (h : UnitWritten letters factor) :
    ∀ c ∈ letters, Text.isBlank c = false ∧ c.isDigit = false := by
  obtain ⟨scale, hunit, _⟩ := unit_written_iff.1 h
  cases hunit with
  | missing => simp
  | letter hletter =>
      rw [List.forall_mem_singleton]
      obtain ⟨hblank, hdecimal⟩ := not_blank_of_letter hletter
      exact ⟨hblank, Text.not_digit_of_not_decimal hdecimal⟩

/-- A letter stands for one number of milliseconds. -/
theorem UnitWritten.factor_unique {letters : List Char} {factor other : Nat}
    (h : UnitWritten letters factor) (hother : UnitWritten letters other) : factor = other := by
  obtain ⟨scale, hunit, rfl⟩ := unit_written_iff.1 h
  obtain ⟨scale', hunit', rfl⟩ := unit_written_iff.1 hother
  cases hunit with
  | missing => cases hunit' with
    | missing => rfl
  | letter hletter => cases hunit' with
    | letter hletter' => rw [Option.some.inj (hletter.symm.trans hletter')]

namespace Reading

variable {characters : List Char} (reading other : Reading characters)

/-- What a text has of some kind is what the parts of a reading have of it. -/
theorem filter_eq (kind : Char → Bool) :
    characters.filter kind =
      reading.before.filter kind ++ reading.digits.filter kind ++ reading.gap.filter kind ++
        reading.letters.filter kind ++ reading.after.filter kind := by
  have hwhole := congrArg (List.filter kind) reading.whole
  simpa only [List.filter_append] using hwhole

/-- White space has nothing of a kind that leaves white space out. -/
theorem filter_blank {kind : Char → Bool} (hkind : ∀ c, Text.isBlank c = true → kind c = false)
    {blanks : List Char} (hblanks : ∀ c ∈ blanks, Text.isBlank c = true) :
    blanks.filter kind = [] :=
  List.filter_eq_nil_iff.2 fun c hc => by simp [hkind c (hblanks c hc)]

/-- The digits of a reading are all the digits of the text. -/
theorem digits_eq : reading.digits = characters.filter Char.isDigit := by
  have hkind : ∀ c, Text.isBlank c = true → c.isDigit = false :=
    fun _ => Text.not_digit_of_blank
  have hletters : reading.letters.filter Char.isDigit = [] :=
    List.filter_eq_nil_iff.2 fun c hc => by simp [(reading.unit.proper c hc).2]
  rw [reading.filter_eq, filter_blank hkind reading.blank_before,
    filter_blank hkind reading.blank_gap, filter_blank hkind reading.blank_after, hletters,
    List.filter_eq_self.2 reading.all_digits]
  simp

/-- The unit of a reading is everything in the text that is neither white space nor a digit. -/
theorem letters_eq :
    reading.letters = characters.filter fun c => !Text.isBlank c && !c.isDigit := by
  have hkind : ∀ c, Text.isBlank c = true → (!Text.isBlank c && !c.isDigit) = false := by
    intro c hblank
    simp [hblank]
  have hdigits : reading.digits.filter (fun c => !Text.isBlank c && !c.isDigit) = [] :=
    List.filter_eq_nil_iff.2 fun c hc => by simp [reading.all_digits c hc]
  have hletters :
      reading.letters.filter (fun c => !Text.isBlank c && !c.isDigit) = reading.letters :=
    List.filter_eq_self.2 fun c hc => by simp [reading.unit.proper c hc]
  rw [reading.filter_eq, filter_blank hkind reading.blank_before,
    filter_blank hkind reading.blank_gap, filter_blank hkind reading.blank_after, hdigits, hletters]
  simp

/-- A text can be read in one way only, as far as its digits and its unit are concerned. -/
theorem parts_unique :
    reading.digits = other.digits ∧ reading.letters = other.letters ∧
      reading.factor = other.factor := by
  have hletters : reading.letters = other.letters := by rw [letters_eq, letters_eq]
  -- How the white space is shared out among the parts is left open, as it has no meaning.
  refine ⟨by rw [digits_eq, digits_eq], hletters, ?_⟩
  exact (hletters ▸ reading.unit).factor_unique other.unit

/-- A text is spelled as a timeout exactly if it can be read as one. -/
theorem spelled_iff_exists {digits : List Char} {factor : Nat} :
    (∃ scale : Scale, Spelled characters digits scale ∧ scale.millis = factor) ↔
      ∃ reading : Reading characters, reading.digits = digits ∧ reading.factor = factor := by
  constructor
  · rintro ⟨scale, ⟨before, digits, gap, letters, after, hbefore, hsome, hdigits, hgap, hunit,
      hafter⟩, hfactor⟩
    exact ⟨⟨before, digits, gap, letters, after, factor, rfl, hbefore, hsome, hdigits, hgap,
      unit_written_iff.2 ⟨scale, hunit, hfactor⟩, hafter⟩, rfl, rfl⟩
  · rintro ⟨⟨before, digits, gap, letters, after, factor, rfl, hbefore, hsome, hdigits, hgap,
      hwritten, hafter⟩, rfl, rfl⟩
    obtain ⟨scale, hunit, hfactor⟩ := unit_written_iff.1 hwritten
    exact ⟨scale, .intro before digits gap letters after hbefore hsome hdigits hgap hunit hafter,
      hfactor⟩

end Reading

variable {spec : String} {millis : Nat}

/-- The bound of the durations is that of 64 bits. -/
theorem limit_eq : limit = 2 ^ 64 := by
  rfl

/-- A text is accepted with the milliseconds of a reading that fit into 64 bits. -/
theorem parse_eq_some_iff_reading :
    parse? spec = some millis ↔
      ∃ reading : Reading spec.toList, millis = reading.millis ∧ millis < 2 ^ 64 := by
  rw [parse_eq_some_iff, limit_eq]
  constructor
  · rintro ⟨digits, scale, hspelled, hmillis, hfits⟩
    obtain ⟨reading, rfl, hfactor⟩ := Reading.spelled_iff_exists.1 ⟨scale, hspelled, rfl⟩
    refine ⟨reading, ?_, hfits⟩
    rw [hmillis, Reading.millis, hfactor, Text.decimalValue_eq_ofDigits]
  · rintro ⟨reading, hmillis, hfits⟩
    obtain ⟨scale, hspelled, hfactor⟩ := Reading.spelled_iff_exists.2 ⟨reading, rfl, rfl⟩
    refine ⟨reading.digits, scale, hspelled, ?_, hfits⟩
    rw [hmillis, Reading.millis, hfactor, Text.decimalValue_eq_ofDigits]

/-- Timeouts are read exactly. A text is accepted with a number of milliseconds exactly if it can be
cut into white space, digits, white space, perhaps a unit and white space so that the number is the
product of the digits and the unit, in unbounded arithmetic, and below `2 ^ 64`. There are no two
readings with other digits or another unit. Validation passes exactly the accepted texts and
otherwise echoes the text, and the lenient form yields the milliseconds of an accepted text and zero
for all others. Trimming a text changes none of the answers but the echo. -/
theorem read_exactly (spec : String) :
    (∀ millis, parse? spec = some millis ↔
      ∃ reading : Reading spec.toList, millis = reading.millis ∧ millis < 2 ^ 64) ∧
    (∀ reading other : Reading spec.toList, reading.digits = other.digits ∧
      reading.letters = other.letters ∧ reading.factor = other.factor) ∧
    (∀ reading : Reading spec.toList, reading.millis < 2 ^ 64 →
      check spec = none ∧ millisOf spec = reading.millis) ∧
    ((¬ ∃ reading : Reading spec.toList, reading.millis < 2 ^ 64) →
      parse? spec = none ∧ millisOf spec = 0 ∧
        check spec = some ("Invalid value specified for timeout: " ++ spec)) ∧
    (parse? (Text.trim spec) = parse? spec ∧ millisOf (Text.trim spec) = millisOf spec ∧
      check (Text.trim spec) =
        (check spec).map fun _ => "Invalid value specified for timeout: " ++ Text.trim spec) := by
  refine ⟨fun millis => parse_eq_some_iff_reading, Reading.parts_unique, fun reading hfits => ?_,
    fun hnone => ?_, ?_, ?_, ?_⟩
  · have hparse : parse? spec = some reading.millis :=
      parse_eq_some_iff_reading.2 ⟨reading, rfl, hfits⟩
    simp [check, millisOf, hparse]
  · have hparse : parse? spec = none := by
      refine Option.eq_none_iff_forall_ne_some.2 fun millis hparse => ?_
      obtain ⟨reading, hmillis, hfits⟩ := parse_eq_some_iff_reading.1 hparse
      exact hnone ⟨reading, hmillis ▸ hfits⟩
    rw [check, millisOf, hparse]
    exact ⟨rfl, rfl, rfl⟩
  · exact parse_trim
  · simp only [millisOf, parse_trim]
  · simp only [check, parse_trim]
    cases parse? spec <;> rfl

/-- Leading zeros do not count, the product has to fit and not only the digits, and digits of other
scripts are none. -/
example : parse? "0000000000000000000000000000018446744073709551 S" = some 18446744073709551000 ∧
    parse? "18446744073709552" = none ∧ parse? "١٠s" = none := by
  decide +kernel

end Runbook.Timeout
