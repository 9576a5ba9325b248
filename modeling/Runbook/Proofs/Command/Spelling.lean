import Runbook.Proofs.Command.Filter

/-!
# Filters are a canonical form

Many comma-separated lists set the same filter: there can be white space around the names, and
blank pieces between them. `OsFilter.Lists` says which texts list which names, and a filter is set
by exactly those texts that list its names (`ofText_eq_some_iff`). So a filter is a canonical form
of the lists that set it: it can be joined with commas and set again, and the joined form tells it
apart from every other filter. The main theorem is `Command.filter_is_canonical`.
-/

namespace Runbook

namespace OsFilter

/-- The pieces of a list of names: the names in order, with any white space around each of them,
and any number of blank pieces before, between and behind them. -/
inductive Spells : List String → List String → Prop
  | nil : Spells [] []
  | blank {names pieces : List String} (piece : String) (hblank : Text.isBlankText piece = true)
      (h : Spells names pieces) : Spells names (piece :: pieces)
  | name {names pieces : List String} (before name after : String)
      (hbefore : Text.isBlankText before = true) (hafter : Text.isBlankText after = true)
      (h : Spells names pieces) : Spells (name :: names) ((before ++ name ++ after) :: pieces)

/-- A comma-separated list of the names. -/
def Lists (text : String) (names : List String) : Prop :=
  ∃ pieces, Spells names pieces ∧ text = ",".intercalate pieces

/-- What a filter can be: it has names, and nothing but names. -/
structure Canonical (allowed : List String) : Prop where
  nonempty : allowed ≠ []
  names : ∀ name ∈ allowed, IsName name

/-- The names of a filter joined with commas, where a missing filter has none. -/
def joined (filter : Option (List String)) : String :=
  ",".intercalate (filter.getD [])

variable {listed written allowed : List String} {text piece name : String}

/-- There is no comma in white space. -/
theorem comma_not_mem_of_blank (h : Text.isBlankText piece = true) : ',' ∉ piece.toList := by
  intro hmem
  rw [Text.isBlankText, List.all_eq_true] at h
  exact absurd (h ',' hmem) (by decide)

/-- The white space around a name is all that is trimmed. -/
theorem IsName.trim_surrounded (hname : IsName name) {before after : String}
    (hbefore : Text.isBlankText before = true) (hafter : Text.isBlankText after = true) :
    Text.trim (before ++ name ++ after) = name := by
  have hcore : Text.trimChars name.toList = name.toList := by
    rw [← String.toList_ofList (l := Text.trimChars name.toList)]
    exact congrArg String.toList hname.trimmed
  rw [Text.isBlankText, List.all_eq_true] at hbefore hafter
  rw [Text.trim, String.toList_append, String.toList_append,
    Text.trimChars_of_surrounded hbefore hafter
      (hcore ▸ Text.not_blank_of_head_trimChars) (hcore ▸ Text.not_blank_of_getLast_trimChars),
    String.ofList_toList]

/-- A name with white space around it is not blank. -/
theorem IsName.surrounded_not_blank (hname : IsName name) {before after : String}
    (hbefore : Text.isBlankText before = true) (hafter : Text.isBlankText after = true) :
    Text.isBlankText (before ++ name ++ after) = false := by
  rw [← Bool.not_eq_true, ← Text.trim_eq_empty_iff, hname.trim_surrounded hbefore hafter]
  exact hname.nonempty

/-- The names in the pieces of a list of names are these names. -/
theorem Spells.kept_eq (h : Spells listed written) (hnames : ∀ name ∈ listed, IsName name) :
    kept written = listed := by
  induction h with
  | nil => rfl
  | blank piece hblank h ih =>
      rw [← ih hnames, kept, kept, List.filter_cons_of_neg (by simp [hblank])]
  | name before name after hbefore hafter h ih =>
      rw [List.forall_mem_cons] at hnames
      have hkept := hnames.1.surrounded_not_blank hbefore hafter
      rw [kept, List.filter_cons_of_pos (by simp [hkept]), List.map_cons,
        hnames.1.trim_surrounded hbefore hafter]
      exact congrArg _ (ih hnames.2)

/-- No piece of a list of names contains a comma. -/
theorem Spells.comma_not_mem (h : Spells listed written) (hnames : ∀ name ∈ listed, IsName name) :
    ∀ piece ∈ written, ',' ∉ piece.toList := by
  induction h with
  | nil => exact nofun
  | blank piece hblank h ih =>
      exact List.forall_mem_cons.2 ⟨comma_not_mem_of_blank hblank, ih hnames⟩
  | name before name after hbefore hafter h ih =>
      rw [List.forall_mem_cons] at hnames
      refine List.forall_mem_cons.2 ⟨?_, ih hnames.2⟩
      simp [comma_not_mem_of_blank hbefore, comma_not_mem_of_blank hafter, hnames.1.comma]

/-- A piece is what is left when it is trimmed, with white space around it. -/
theorem exists_eq_append_trim (piece : String) :
    ∃ before after, piece = before ++ Text.trim piece ++ after ∧
      Text.isBlankText before = true ∧ Text.isBlankText after = true := by
  obtain ⟨before, after, hpiece, hbefore, hafter⟩ :=
    Text.exists_eq_append_trimChars piece.toList
  refine ⟨String.ofList before, String.ofList after, ?_, ?_, ?_⟩
  · rw [← String.toList_inj]
    simpa [Text.trim] using hpiece
  · simpa [Text.isBlankText] using hbefore
  · simpa [Text.isBlankText] using hafter

/-- All pieces are the pieces of a list of the names in them. -/
theorem spells_kept (written : List String) : Spells (kept written) written := by
  induction written with
  | nil => exact .nil
  | cons piece rest ih =>
      cases hblank : Text.isBlankText piece with
      | true =>
          rw [kept, List.filter_cons_of_neg (by simp [hblank])]
          exact .blank piece hblank ih
      | false =>
          rw [kept, List.filter_cons_of_pos (by simp [hblank]), List.map_cons]
          obtain ⟨before, after, hpiece, hbefore, hafter⟩ := exists_eq_append_trim piece
          have hspells := Spells.name before (Text.trim piece) after hbefore hafter ih
          rwa [← hpiece] at hspells

/-- A text is its pieces joined with commas. -/
theorem intercalate_pieces (text : String) : ",".intercalate (pieces text) = text := by
  rw [← String.toList_inj, String.toList_intercalate, pieces, List.map_map,
    show String.toList ∘ String.ofList = id from funext fun _ => String.toList_ofList, List.map_id]
  exact List.intercalate_splitOn ','

/-- Pieces without commas that are joined with commas are the pieces of the text. -/
theorem pieces_intercalate (hsome : written ≠ [])
    (hcommas : ∀ piece ∈ written, ',' ∉ piece.toList) :
    pieces (",".intercalate written) = written := by
  rw [pieces, String.toList_intercalate, show (",".toList) = [','] from rfl,
    List.splitOn_intercalate ',' (by simpa using hcommas) (by simpa using hsome), List.map_map,
    show String.ofList ∘ String.toList = id from funext fun _ => String.ofList_toList, List.map_id]

/-- A list sets no filter exactly if all its pieces are blank. -/
theorem ofText_eq_none_iff :
    ofText text = none ↔ ∀ piece ∈ pieces text, Text.isBlankText piece = true := by
  rw [ofText, names_eq_kept, ite_eq_left_iff, List.isEmpty_iff, kept, List.map_eq_nil_iff,
    List.filter_eq_nil_iff]
  simp

/-- A filter is set by exactly those lists whose names it has. -/
theorem ofText_eq_some_iff_kept :
    ofText text = some allowed ↔ kept (pieces text) = allowed ∧ allowed ≠ [] := by
  rw [ofText, names_eq_kept]
  split
  · rename_i hnone
    rw [List.isEmpty_iff] at hnone
    simp [hnone, eq_comm]
  · rename_i hsome
    rw [List.isEmpty_iff] at hsome
    constructor
    · rintro h
      cases h
      exact ⟨rfl, hsome⟩
    · rintro ⟨rfl, _⟩
      rfl

/-- A filter that a list sets is canonical. -/
theorem canonical_of_ofText (h : ofText text = some allowed) : Canonical allowed := by
  obtain ⟨rfl, hsome⟩ := ofText_eq_some_iff_kept.1 h
  refine ⟨hsome, fun name hname => ?_⟩
  obtain ⟨piece, hpiece, rfl⟩ := List.mem_map.1 hname
  obtain ⟨hmem, hkept⟩ := List.mem_filter.1 hpiece
  exact isName_of_mem_pieces hmem (by simpa using hkept)

/-- A filter is canonical, and it is set by exactly those texts that list its names. -/
theorem ofText_eq_some_iff :
    ofText text = some allowed ↔ Canonical allowed ∧ Lists text allowed := by
  constructor
  · intro h
    refine ⟨canonical_of_ofText h, pieces text, ?_, (intercalate_pieces text).symm⟩
    rw [← (ofText_eq_some_iff_kept.1 h).1]
    exact spells_kept _
  · rintro ⟨⟨hsome, hnames⟩, written, hspells, rfl⟩
    have hwritten : written ≠ [] := by
      rintro rfl
      cases hspells
      exact hsome rfl
    rw [ofText_eq_some_iff_kept, pieces_intercalate hwritten (hspells.comma_not_mem hnames)]
    exact ⟨hspells.kept_eq hnames, hsome⟩

/-- Names are listed by joining them with commas. -/
theorem lists_joined (allowed : List String) : Lists (joined (some allowed)) allowed := by
  refine ⟨allowed, ?_, rfl⟩
  induction allowed with
  | nil => exact .nil
  | cons name rest ih =>
      have hspells := Spells.name "" name "" rfl rfl ih
      rwa [String.empty_append, String.append_empty] at hspells

/-- A filter that is canonical, if there is one, is set again by its joined form. -/
theorem ofText_joined {filter : Option (List String)}
    (hfilter : ∀ allowed, filter = some allowed → Canonical allowed) :
    ofText (joined filter) = filter := by
  cases filter with
  | none => exact ofText_eq_none_iff.2 (by decide)
  | some allowed => exact ofText_eq_some_iff.2 ⟨hfilter allowed rfl, lists_joined allowed⟩

end OsFilter

namespace Command

/-- The filter of a configured command is canonical, if there is one. -/
theorem Configured.canonical {command : Command} (h : Configured command) :
    ∀ allowed, command.os = some allowed → OsFilter.Canonical allowed := by
  induction h with
  | new executable => exact nofun
  | setOs names h ih => exact fun allowed => OsFilter.canonical_of_ofText
  | addArgs args h ih => exact ih
  | setTimeout timeout h ih => exact ih
  | setHooks hooks h ih => exact ih
  | setPolicy policy h ih => exact ih

/-- The filter of a configured command is set again by its joined form. -/
theorem Configured.ofText_joined {command : Command} (h : Configured command) :
    OsFilter.ofText (OsFilter.joined command.os) = command.os :=
  OsFilter.ofText_joined h.canonical

/-- A comma-separated list clears the filter of a command, whatever it was before, exactly if all
pieces of the list are blank, and otherwise sets the trimmed pieces that are not blank, in order: at
least one, and none of them empty, with a comma or with white space at its ends. In return, such
names are set by every text that lists them, with whatever white space around them and whatever
blank pieces between them, and by no other text. So a filter is set again by its own joined form,
and this form tells the filters apart. -/
theorem filter_is_canonical :
    (∀ (command : Command) (text : String),
      ((command.setOs text).os = none ↔
        ∀ piece ∈ OsFilter.pieces text, Text.isBlankText piece = true) ∧
      ∀ allowed, (command.setOs text).os = some allowed →
        allowed = ((OsFilter.pieces text).filter fun piece => !Text.isBlankText piece).map
          Text.trim ∧
        allowed ≠ [] ∧
        ∀ name ∈ allowed, name ≠ "" ∧ ',' ∉ name.toList ∧ Text.trim name = name) ∧
    (∀ (command : Command) (text : String) (allowed : List String), allowed ≠ [] →
      (∀ name ∈ allowed, name ≠ "" ∧ ',' ∉ name.toList ∧ Text.trim name = name) →
      ((command.setOs text).os = some allowed ↔ OsFilter.Lists text allowed)) ∧
    (∀ command : Command, command.Configured →
      command.setOs (OsFilter.joined command.os) = command) ∧
    ∀ first second : Command, first.Configured → second.Configured →
      (OsFilter.joined first.os = OsFilter.joined second.os ↔ first.os = second.os) := by
  refine ⟨fun command text => ⟨OsFilter.ofText_eq_none_iff, fun allowed hset => ?_⟩,
    fun command text allowed hsome hnames => ?_, fun command hconfigured => ?_,
    fun first second hfirst hsecond => ⟨fun hjoined => ?_, fun hos => by rw [hos]⟩⟩
  · have hcanonical := OsFilter.canonical_of_ofText hset
    refine ⟨(OsFilter.ofText_eq_some_iff_kept.1 hset).1.symm, hcanonical.nonempty, ?_⟩
    intro name hname
    exact ⟨(hcanonical.names name hname).nonempty, (hcanonical.names name hname).comma,
      (hcanonical.names name hname).trimmed⟩
  · have hcanonical : OsFilter.Canonical allowed := by
      refine ⟨hsome, fun name hname => ?_⟩
      obtain ⟨hnonempty, hcomma, htrimmed⟩ := hnames name hname
      exact ⟨hnonempty, hcomma, htrimmed⟩
    exact OsFilter.ofText_eq_some_iff.trans (and_iff_right hcanonical)
  · rw [setOs, hconfigured.ofText_joined]
  · rw [← hfirst.ofText_joined, hjoined, hsecond.ofText_joined]

/-- A list with an ideographic space, a tabulator and blank pieces sets the filter that the plain
list of the two names sets, in place of the filter that was there. -/
theorem filter_is_canonical_for_spaced_list :
    let command := ({ executable := "ls" } : Command).setOs "Windows"
    let text := ",\u3000Linux , ,Mac OS X\t,"
    (command.setOs text).Configured ∧ OsFilter.Lists text ["Linux", "Mac OS X"] ∧
      (command.setOs text).os = some ["Linux", "Mac OS X"] ∧
      (command.setOs text).setOs "Linux,Mac OS X" = command.setOs text := by
  intro command text
  obtain ⟨_, hlisted, hagain, _⟩ := filter_is_canonical
  have hconfigured : (command.setOs text).Configured := .setOs _ (.setOs _ (.new "ls"))
  have hlists : OsFilter.Lists text ["Linux", "Mac OS X"] := by
    refine ⟨["", "\u3000Linux ", " ", "Mac OS X\t", ""], ?_, by decide⟩
    exact .blank "" rfl (.name "\u3000" "Linux" " " rfl rfl
      (.blank " " rfl (.name "" "Mac OS X" "\t" rfl rfl (.blank "" rfl .nil))))
  have hset := (hlisted command text ["Linux", "Mac OS X"] (by decide) (by decide)).2 hlists
  have hjoined := hagain _ hconfigured
  rw [hset] at hjoined
  exact ⟨hconfigured, hlists, hset, hjoined⟩

end Command

end Runbook
