import Runbook.Proofs.Text.Digits
import Runbook.Proofs.Text.Trimming
import Runbook.Timeout

/-!
# The grammar of timeouts

`Spelled` is the grammar: digits and perhaps a unit letter, with white space around and between
them. A timeout is accepted exactly if it is spelled so and its milliseconds fit into 64 bits, and
then they are the number times the unit (`parse_eq_some_iff`). White space around a timeout makes no
difference, and it comes to zero only by digits that are all zero.
-/

namespace Runbook

namespace Timeout

/-- The unit at the end of a timeout. Nothing stands for seconds, and otherwise a letter names it. -/
inductive UnitSpelled : List Char → Scale → Prop
  | missing : UnitSpelled [] .seconds
  | letter {c : Char} {scale : Scale} (hletter : Scale.ofLetter? c = some scale) :
      UnitSpelled [c] scale

/-- The spelling of a timeout with its digits and its unit: white space, digits, white space,
perhaps a unit, white space. -/
inductive Spelled : List Char → List Char → Scale → Prop
  | intro (before digits gap letters after : List Char) {scale : Scale}
      (hbefore : ∀ c ∈ before, Text.isBlank c = true) (hsome : digits ≠ [])
      (hdigits : ∀ c ∈ digits, c.isDigit = true) (hgap : ∀ c ∈ gap, Text.isBlank c = true)
      (hunit : UnitSpelled letters scale) (hafter : ∀ c ∈ after, Text.isBlank c = true) :
      Spelled (before ++ digits ++ gap ++ letters ++ after) digits scale

variable {spec : String} {characters digits letters after : List Char} {scale : Scale}
  {millis : Nat}

/-- A unit letter is neither white space nor a digit of any script. -/
theorem not_blank_of_letter {c : Char} (h : Scale.ofLetter? c = some scale) :
    Text.isBlank c = false ∧ Text.isDecimal c = false := by
  unfold Scale.ofLetter? at h
  split at h <;> first | exact ⟨by decide, by decide⟩ | cases h

/-- A unit is read in front of white space. -/
theorem scaleOf_of_spelled (h : UnitSpelled letters scale)
    (hafter : ∀ c ∈ after, Text.isBlank c = true) :
    scaleOf? ((letters ++ after).dropWhile Text.isBlank) = some scale := by
  cases h with
  | missing =>
      rw [List.nil_append, List.dropWhile_eq_nil_iff.2 hafter]
      rfl
  | letter hletter =>
      rw [List.singleton_append,
        List.dropWhile_cons_of_neg (by simp [(not_blank_of_letter hletter).1]), scaleOf?,
        if_pos (List.all_eq_true.2 hafter)]
      exact hletter

/-- Whatever is read as a unit is one, perhaps with white space behind it. -/
theorem spelled_of_scaleOf {tail : List Char} (h : scaleOf? tail = some scale) :
    ∃ letters after, tail = letters ++ after ∧ UnitSpelled letters scale ∧
      ∀ c ∈ after, Text.isBlank c = true := by
  cases tail with
  | nil =>
      cases h
      exact ⟨[], [], rfl, .missing, by simp⟩
  | cons c rest =>
      rw [scaleOf?] at h
      split at h
      · rename_i hrest
        exact ⟨[c], rest, rfl, .letter h, List.all_eq_true.1 hrest⟩
      · cases h

/-- A unit letter is no digit, and neither is the white space around it. -/
theorem not_decimal_of_unit {gap : List Char} (hgap : ∀ c ∈ gap, Text.isBlank c = true)
    (hunit : UnitSpelled letters scale) (hafter : ∀ c ∈ after, Text.isBlank c = true) :
    ∀ c ∈ gap ++ letters ++ after, Text.isDecimal c = false := by
  intro c hc
  rw [List.mem_append, List.mem_append] at hc
  rcases hc with (hc | hc) | hc
  · exact Text.not_decimal_of_blank (hgap c hc)
  · cases hunit with
    | missing => cases hc
    | letter hletter =>
        rw [List.mem_singleton.1 hc]
        exact (not_blank_of_letter hletter).2
  · exact Text.not_decimal_of_blank (hafter c hc)

/-- Reading finds the digits and the unit of a timeout, and finds them in nothing else unless its
digits are those of another script. -/
theorem spelled_iff :
    Spelled characters digits scale ↔
      digits ≠ [] ∧ (∀ c ∈ digits, c.isDigit = true) ∧
        (characters.dropWhile Text.isBlank).takeWhile Text.isDecimal = digits ∧
        scaleOf? (((characters.dropWhile Text.isBlank).dropWhile Text.isDecimal).dropWhile
          Text.isBlank) = some scale := by
  constructor
  · rintro ⟨before, digits, gap, letters, after, hbefore, hsome, hdigits, hgap, hunit, hafter⟩
    have hdecimals : ∀ c ∈ digits, Text.isDecimal c = true :=
      fun c hc => Text.isDecimal_of_digit (hdigits c hc)
    -- Nothing behind the digits is one, so that reading them stops at the gap.
    have hrest := not_decimal_of_unit hgap hunit hafter
    have hbody : (before ++ digits ++ gap ++ letters ++ after).dropWhile Text.isBlank =
        digits ++ (gap ++ letters ++ after) := by
      obtain ⟨digit, others, rfl⟩ := List.exists_cons_of_ne_nil hsome
      have hfirst : ¬ Text.isBlank digit = true := fun hblank => by
        simp [Text.not_digit_of_blank hblank] at hdigits
      simp only [List.append_assoc]
      rw [List.dropWhile_append_of_pos hbefore, List.cons_append,
        List.dropWhile_cons_of_neg hfirst]
    have hstop : (gap ++ letters ++ after).takeWhile Text.isDecimal = [] ∧
        (gap ++ letters ++ after).dropWhile Text.isDecimal = gap ++ letters ++ after := by
      cases hcase : gap ++ letters ++ after with
      | nil => exact ⟨rfl, rfl⟩
      | cons c rest =>
          have hc : ¬ Text.isDecimal c = true := by simp [hrest c (by rw [hcase]; exact .head rest)]
          exact ⟨List.takeWhile_cons_of_neg hc, List.dropWhile_cons_of_neg hc⟩
    rw [hbody, List.takeWhile_append_of_pos hdecimals, List.dropWhile_append_of_pos hdecimals,
      hstop.1, hstop.2, List.append_assoc gap, List.dropWhile_append_of_pos hgap]
    exact ⟨hsome, hdigits, List.append_nil _, scaleOf_of_spelled hunit hafter⟩
  · rintro ⟨hsome, hall, hdigits, hscale⟩
    obtain ⟨letters, after, htail, hunit, hafter⟩ := spelled_of_scaleOf hscale
    let body := characters.dropWhile Text.isBlank
    have hwhole : characters = characters.takeWhile Text.isBlank ++ digits ++
        (body.dropWhile Text.isDecimal).takeWhile Text.isBlank ++ letters ++ after := by
      rw [List.append_assoc _ letters, ← htail, List.append_assoc _ _ (List.dropWhile _ _),
        List.takeWhile_append_dropWhile, ← hdigits, List.append_assoc,
        List.takeWhile_append_dropWhile, List.takeWhile_append_dropWhile]
    rw [hwhole]
    exact .intro _ _ _ _ _ (fun c hc => List.mem_takeWhile_imp hc) hsome hall
      (fun c hc => List.mem_takeWhile_imp hc) hunit hafter

/-- So many units can be counted if their milliseconds fit. -/
theorem Scale.times_eq_some_iff {count : Nat} :
    scale.times? count = some millis ↔ millis = count * scale.millis ∧ millis < limit := by
  simp only [times?, Option.ite_none_right_eq_some, Option.some.injEq]
  constructor
  · rintro ⟨hfits, rfl⟩
    exact ⟨rfl, hfits⟩
  · rintro ⟨rfl, hfits⟩
    exact ⟨hfits, rfl⟩

/-- A unit counts something. -/
theorem Scale.millis_pos (scale : Scale) : 0 < scale.millis := by
  cases scale <;> decide

/-- A timeout is accepted exactly if it is spelled as one and fits into 64 bits, and then it has the
milliseconds that are spelled. -/
theorem parse_eq_some_iff :
    parse? spec = some millis ↔
      ∃ digits scale, Spelled spec.toList digits scale ∧
        millis = Text.decimalValue digits * scale.millis ∧ millis < limit := by
  simp only [spelled_iff]
  unfold parse?
  simp only [Option.ite_none_left_eq_some, Option.bind_eq_some_iff, List.isEmpty_iff,
    Text.word_of_decimals_iff fun _ => List.mem_takeWhile_imp, Scale.times_eq_some_iff]
  constructor
  · rintro ⟨_, scale, hscale, value, ⟨hsome, hall, rfl, _⟩, hmillis, hfits⟩
    exact ⟨_, scale, ⟨hsome, hall, rfl, hscale⟩, hmillis, hfits⟩
  · rintro ⟨digits, scale, ⟨hsome, hall, rfl, hscale⟩, rfl, hfits⟩
    -- The number fits, because it is not greater than the milliseconds.
    have hword : Text.decimalValue _ < Text.wordLimit :=
      Nat.lt_of_le_of_lt (Nat.le_mul_of_pos_right _ scale.millis_pos) hfits
    exact ⟨hsome, scale, hscale, _, ⟨hsome, hall, rfl, hword⟩, rfl, hfits⟩

namespace Spelled

/-- The digits of a timeout are all the digits in its spelling. -/
theorem mem_digits_iff (h : Spelled characters digits scale) {c : Char} :
    c ∈ digits ↔ c ∈ characters ∧ c.isDigit = true := by
  obtain ⟨before, digits, gap, letters, after, hbefore, hsome, hdigits, hgap, hunit, hafter⟩ := h
  constructor
  · intro hc
    exact ⟨by simp [hc], hdigits c hc⟩
  · rintro ⟨hc, hdigit⟩
    by_contra hother
    have hrest : c ∈ before ∨ c ∈ gap ++ letters ++ after := by
      simp only [List.mem_append] at hc ⊢
      tauto
    have hnone : Text.isDecimal c = false :=
      hrest.elim (fun hc => Text.not_decimal_of_blank (hbefore c hc))
        (not_decimal_of_unit hgap hunit hafter c)
    rw [Text.not_digit_of_not_decimal hnone] at hdigit
    cases hdigit

/-- White space around a timeout is part of its spelling. -/
theorem surround (h : Spelled characters digits scale) {before after : List Char}
    (hbefore : ∀ c ∈ before, Text.isBlank c = true) (hafter : ∀ c ∈ after, Text.isBlank c = true) :
    Spelled (before ++ characters ++ after) digits scale := by
  obtain ⟨front, digits, gap, letters, back, hfront, hsome, hdigits, hgap, hunit, hback⟩ := h
  have hlonger := intro (before ++ front) digits gap letters (back ++ after)
    (List.forall_mem_append.2 ⟨hbefore, hfront⟩) hsome hdigits hgap hunit
    (List.forall_mem_append.2 ⟨hback, hafter⟩)
  simpa only [List.append_assoc] using hlonger

/-- A spelling is one that neither begins nor ends with white space, with white space around it. -/
theorem exists_core (h : Spelled characters digits scale) :
    ∃ before core after, characters = before ++ core ++ after ∧ Spelled core digits scale ∧
      (∀ c ∈ before, Text.isBlank c = true) ∧ (∀ c ∈ after, Text.isBlank c = true) ∧
      (∀ c ∈ core.head?, Text.isBlank c = false) ∧
      ∀ c ∈ core.getLast?, Text.isBlank c = false := by
  obtain ⟨front, digits, gap, letters, back, hfront, hsome, hdigits, hgap, hunit, hback⟩ := h
  have hnone : ∀ c ∈ ([] : List Char), Text.isBlank c = true := by simp
  have hproper : ∀ c ∈ digits, Text.isBlank c = false := by
    intro c hc
    rw [Bool.eq_false_iff]
    intro hblank
    exact absurd (hdigits c hc) (by simp [Text.not_digit_of_blank hblank])
  cases hunit with
  | missing =>
      -- Without a unit the gap is around the spelling as well.
      have hcore := intro [] digits [] [] [] hnone hsome hdigits hnone .missing hnone
      refine ⟨front, digits, gap ++ back, by simp, by simpa using hcore, hfront,
        List.forall_mem_append.2 ⟨hgap, hback⟩, ?_, ?_⟩
      · exact fun c hc => hproper c (List.mem_of_head? hc)
      · exact fun c hc => hproper c (List.mem_of_getLast? hc)
  | @letter letter _ hletter =>
      have hcore := intro [] digits gap [letter] [] hnone hsome hdigits hgap (.letter hletter) hnone
      refine ⟨front, digits ++ gap ++ [letter], back, by simp, by simpa using hcore, hfront, hback,
        fun c hc => ?_, fun c hc => ?_⟩
      · rw [List.append_assoc, List.head?_append_of_ne_nil _ hsome] at hc
        exact hproper c (List.mem_of_head? hc)
      · rw [List.getLast?_append, List.getLast?_singleton] at hc
        cases hc
        exact (not_blank_of_letter hletter).1

/-- What trimming leaves of a timeout spells the same. -/
theorem trim (h : Spelled characters digits scale) :
    Spelled (Text.trimChars characters) digits scale := by
  obtain ⟨before, core, after, rfl, hcore, hbefore, hafter, hfirst, hlast⟩ := h.exists_core
  rwa [Text.trimChars_of_surrounded hbefore hafter hfirst hlast]

end Spelled

/-- White space around a timeout makes no difference. -/
theorem parse_trim : parse? (Text.trim spec) = parse? spec := by
  have hsame : ∀ digits scale,
      Spelled (Text.trim spec).toList digits scale ↔ Spelled spec.toList digits scale := by
    intro digits scale
    rw [Text.trim, String.toList_ofList]
    obtain ⟨before, after, hwhole, hbefore, hafter⟩ := Text.exists_eq_append_trimChars spec.toList
    refine ⟨fun h => ?_, Spelled.trim⟩
    rw [hwhole]
    exact h.surround hbefore hafter
  ext millis
  simp only [parse_eq_some_iff, hsame]

/-- A timeout comes to zero exactly if its digits are all zero. -/
theorem millis_eq_zero_iff (h : parse? spec = some millis) :
    millis = 0 ↔ ∀ c ∈ spec.toList, c.isDigit = true → c = '0' := by
  obtain ⟨digits, scale, hspelled, hmillis, _⟩ := parse_eq_some_iff.1 h
  have hdigits : ∀ c ∈ digits, c.isDigit = true := fun c hc => (hspelled.mem_digits_iff.1 hc).2
  calc millis = 0 ↔ Text.decimalValue digits = 0 := by
        rw [hmillis, Nat.mul_eq_zero, or_iff_left scale.millis_pos.ne']
    _ ↔ ∀ c ∈ digits, c = '0' := Text.decimalValue_eq_zero_iff hdigits
    _ ↔ ∀ c ∈ spec.toList, c.isDigit = true → c = '0' := by
        simp only [hspelled.mem_digits_iff, and_imp]

end Timeout

end Runbook
