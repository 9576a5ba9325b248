import Mathlib.Tactic.SplitIfs
import Runbook.Toml.Tree

/-!
# The keys of a table ascend

Each statement of a document adds to a tree whose keys ascend and leaves it so. In particular, no key
occurs twice in any table of a document, however deep the table lies (`parse?_ascends`).
-/

namespace Runbook.Toml

mutual

/-- The keys of all tables in a value ascend. -/
def Value.Ascends : Value → Prop
  | .array items => itemsAscend items
  | .table entries => entries.Pairwise (fun first second => first.1 < second.1) ∧
      entriesAscend entries
  | _ => True

/-- The keys of all tables in the items of an array ascend. -/
def itemsAscend : List Value → Prop
  | [] => True
  | item :: rest => item.Ascends ∧ itemsAscend rest

/-- The keys of all tables in the entries of a table ascend. -/
def entriesAscend : List (String × Value) → Prop
  | [] => True
  | (_, value) :: rest => value.Ascends ∧ entriesAscend rest

end

mutual

/-- What is written contains no finished array and no finished table. -/
def Written.Loose : Written → Prop
  | .value (.array _) | .value (.table _) => False
  | .value _ => True
  | .array items => itemsLoose items
  | .table entries => entriesLoose entries

/-- The items of an array contain nothing finished. -/
def itemsLoose : List Written → Prop
  | [] => True
  | item :: rest => item.Loose ∧ itemsLoose rest

/-- The entries between braces contain nothing finished. -/
def entriesLoose : List (KeyPath × Written) → Prop
  | [] => True
  | (_, written) :: rest => written.Loose ∧ entriesLoose rest

end

variable {entries root : Entries} {key : String} {node : Node} {way : Origin} {path : KeyPath}
  {value : Value} {written : Written} {statement : Statement} {tokens rest : List Token}

theorem itemsAscend_iff {items : List Value} :
    itemsAscend items ↔ ∀ item ∈ items, item.Ascends := by
  induction items with
  | nil => simp [itemsAscend]
  | cons item rest ih => simp [itemsAscend, ih]

theorem entriesAscend_iff {entries : List (String × Value)} :
    entriesAscend entries ↔ ∀ entry ∈ entries, entry.2.Ascends := by
  induction entries with
  | nil => simp [entriesAscend]
  | cons entry rest ih => simp [entriesAscend, ih]

theorem itemsLoose_iff {items : List Written} : itemsLoose items ↔ ∀ item ∈ items, item.Loose := by
  induction items with
  | nil => simp [itemsLoose]
  | cons item rest ih => simp [itemsLoose, ih]

theorem entriesLoose_iff {entries : List (KeyPath × Written)} :
    entriesLoose entries ↔ ∀ entry ∈ entries, entry.2.Loose := by
  induction entries with
  | nil => simp [entriesLoose]
  | cons entry rest ih => simp [entriesLoose, ih]

theorem valuesOfEntries_eq_map :
    valuesOfEntries entries = entries.map fun entry => (entry.1, entry.2.toValue) := by
  induction entries with
  | nil => rfl
  | cons entry rest ih => rw [valuesOfEntries, ih, List.map_cons]

theorem valuesOfElements_eq_map {elements : List Entries} :
    valuesOfElements elements = elements.map fun entries => .table (valuesOfEntries entries) := by
  induction elements with
  | nil => rfl
  | cons entries rest ih => rw [valuesOfElements, ih, List.map_cons]

/-- The keys of a table that is still being built ascend, and so do those of all tables in it. -/
def Orderly (entries : Entries) : Prop :=
  (Value.table (valuesOfEntries entries)).Ascends

theorem orderly_iff : Orderly entries ↔
    entries.Pairwise (fun first second => first.1 < second.1) ∧
      ∀ entry ∈ entries, entry.2.toValue.Ascends := by
  rw [Orderly, Value.Ascends, entriesAscend_iff, valuesOfEntries_eq_map, List.pairwise_map,
    List.forall_mem_map]

theorem orderly_nil : Orderly [] :=
  orderly_iff.2 ⟨.nil, by simp⟩

theorem ascends_elements_iff {earlier : List Entries} {last : Entries} :
    (Node.elements earlier last).toValue.Ascends ↔ (∀ entries ∈ earlier, Orderly entries) ∧
      Orderly last := by
  rw [Node.toValue, Value.Ascends, itemsAscend_iff, valuesOfElements_eq_map, List.forall_mem_append,
    List.forall_mem_map, List.forall_mem_singleton]
  rfl

/-- Putting a node under a key adds no other keys. -/
theorem mem_put {entry : String × Node} (h : entry ∈ put entries key node) :
    entry = (key, node) ∨ entry ∈ entries := by
  induction entries with
  | nil => exact .inl (List.mem_singleton.1 h)
  | cons first rest ih =>
      rw [put] at h
      split_ifs at h
      · exact (List.mem_cons.1 h).imp_right (List.mem_cons_of_mem _)
      · exact List.mem_cons.1 h
      · rcases List.mem_cons.1 h with rfl | h
        · exact .inr List.mem_cons_self
        · exact (ih h).imp_right (List.mem_cons_of_mem _)

/-- A node that is put where its key belongs leaves the keys ascending. -/
theorem Orderly.put (h : Orderly entries) (hnode : node.toValue.Ascends) :
    Orderly (put entries key node) := by
  rw [orderly_iff] at h ⊢
  refine ⟨?_, fun entry hmem => ?_⟩
  · -- The search stops at the first larger key, which is the right place only if the keys ascend.
    obtain ⟨hkeys, -⟩ := h
    induction entries with
    | nil => exact List.pairwise_singleton _ _
    | cons first rest ih =>
        rw [List.pairwise_cons] at hkeys
        rw [Toml.put]
        split_ifs with hsame hbefore
        · exact List.pairwise_cons.2 ⟨hsame ▸ hkeys.1, hkeys.2⟩
        · refine List.pairwise_cons.2 ⟨List.forall_mem_cons.2 ⟨hbefore, fun entry hmem => ?_⟩,
            List.pairwise_cons.2 hkeys⟩
          exact String.lt_trans hbefore (hkeys.1 entry hmem)
        · refine List.pairwise_cons.2 ⟨fun entry hmem => ?_, ih hkeys.2⟩
          rcases mem_put hmem with rfl | hrest
          · exact Std.lt_of_le_of_ne (String.not_lt.1 hbefore) hsame
          · exact hkeys.1 entry hrest
  · rcases mem_put hmem with rfl | hmem
    · exact hnode
    · exact h.2 entry hmem

/-- The keys ascend in what is found under a key. -/
theorem Orderly.lookup (h : Orderly entries) (hlookup : entries.lookup key = some node) :
    node.toValue.Ascends := by
  obtain ⟨before, after, rfl, -⟩ := List.lookup_eq_some_iff.1 hlookup
  exact (orderly_iff.1 h).2 (key, node) (by simp)

/-- A change of a table keeps its keys ascending. -/
def KeepsOrder (change : Origin → Entries → Option Entries) : Prop :=
  ∀ origin entries changed, Orderly entries → change origin entries = some changed → Orderly changed

/-- What keeps the keys of one table ascending does so at the end of every path. -/
theorem KeepsOrder.changeAt {change : Origin → Entries → Option Entries} (h : KeepsOrder change)
    (keys : List String) : KeepsOrder (changeAt way change keys) := by
  -- A child that is changed comes from the table, or it is new and empty, so its keys ascend.
  induction keys with
  | nil => exact h
  | cons key keys ih =>
      intro origin entries changed hentries hchange
      rw [Toml.changeAt] at hchange
      split at hchange
      · obtain ⟨child, hchild, rfl⟩ := Option.map_eq_some_iff.1 hchange
        exact hentries.put (ih _ _ _ orderly_nil hchild)
      · rename_i origin child hlookup
        split_ifs at hchange
        obtain ⟨child', hchild, rfl⟩ := Option.map_eq_some_iff.1 hchange
        exact hentries.put (ih _ _ _ (hentries.lookup hlookup) hchild)
      · rename_i earlier last hlookup
        obtain ⟨last', hlast, rfl⟩ := Option.map_eq_some_iff.1 hchange
        have helements := ascends_elements_iff.1 (hentries.lookup hlookup)
        exact hentries.put (ascends_elements_iff.2 ⟨helements.1, ih _ _ _ helements.2 hlast⟩)
      · cases hchange

/-- Giving a key its value keeps the keys ascending. -/
theorem keepsOrder_assign (path : KeyPath) (hvalue : value.Ascends) :
    KeepsOrder (assign path value) := by
  refine KeepsOrder.changeAt (fun origin entries changed hentries hchange => ?_) path.1
  split_ifs at hchange
  cases hchange
  exact hentries.put hvalue

/-- Opening a table keeps the keys ascending. -/
theorem Orderly.openTable (h : Orderly entries) (hopen : openTable path entries = some root) :
    Orderly root := by
  refine KeepsOrder.changeAt (fun origin entries changed hentries hchange => ?_) path.1 _ _ _ h hopen
  split at hchange
  · cases hchange
    exact hentries.put orderly_nil
  · rename_i child hlookup
    cases hchange
    have hchild : Orderly child := hentries.lookup hlookup
    exact hentries.put hchild
  · cases hchange

/-- Opening an element of an array of tables keeps the keys ascending. -/
theorem Orderly.openElement (h : Orderly entries) (hopen : openElement path entries = some root) :
    Orderly root := by
  refine KeepsOrder.changeAt (fun origin entries changed hentries hchange => ?_) path.1 _ _ _ h hopen
  split at hchange
  · cases hchange
    exact hentries.put (ascends_elements_iff.2 ⟨by simp, orderly_nil⟩)
  · rename_i earlier last hlookup
    cases hchange
    have helements := ascends_elements_iff.1 (hentries.lookup hlookup)
    refine hentries.put (ascends_elements_iff.2 ⟨fun entries hmem => ?_, orderly_nil⟩)
    rcases List.mem_append.1 hmem with hmem | hmem
    · exact helements.1 entries hmem
    · exact List.mem_singleton.1 hmem ▸ helements.2
  · cases hchange

mutual

/-- The value of what is written has ascending keys. -/
theorem Written.Loose.ascends : ∀ {written : Written} {value : Value},
    written.Loose → written.value? = some value → value.Ascends
  | .value value, _, hloose, h => by
      cases h
      cases value <;> trivial
  | .array items, _, hloose, h => by
      obtain ⟨values, hvalues, rfl⟩ := Option.map_eq_some_iff.1 h
      exact itemsLoose_ascend hloose hvalues
  | .table entries, _, hloose, h => by
      obtain ⟨merged, hmerged, rfl⟩ := Option.map_eq_some_iff.1 h
      exact entriesLoose_orderly hloose orderly_nil hmerged

/-- The values of the items of an array have ascending keys. -/
theorem itemsLoose_ascend : ∀ {items : List Written} {values : List Value},
    itemsLoose items → valuesOfItems? items = some values → itemsAscend values
  | [], _, _, h => by
      cases h
      trivial
  | item :: rest, _, hloose, h => by
      obtain ⟨value, hvalue, h⟩ := Option.bind_eq_some_iff.1 h
      obtain ⟨values, hvalues, h⟩ := Option.bind_eq_some_iff.1 h
      cases h
      exact ⟨hloose.1.ascends hvalue, itemsLoose_ascend hloose.2 hvalues⟩

/-- Entries between braces are merged into a table whose keys ascend. -/
theorem entriesLoose_orderly : ∀ {written : List (KeyPath × Written)} {entries merged : Entries},
    entriesLoose written → Orderly entries → inlineEntries? written entries = some merged →
      Orderly merged
  | [], _, _, _, horderly, h => by
      cases h
      exact horderly
  | (path, written) :: rest, _, _, hloose, horderly, h => by
      obtain ⟨value, hvalue, h⟩ := Option.bind_eq_some_iff.1 h
      obtain ⟨entries, hassign, h⟩ := Option.bind_eq_some_iff.1 h
      have hentries := keepsOrder_assign path (hloose.1.ascends hvalue) _ _ _ horderly hassign
      exact entriesLoose_orderly hloose.2 hentries h

end

/-- A statement whose value, if it has one, contains nothing finished. -/
def Statement.Loose : Statement → Prop
  | .assign _ written => written.Loose
  | _ => True

/-- A statement leaves the keys of the tree ascending. -/
theorem Orderly.add {builder next : Builder} (h : Orderly builder.root) (hloose : statement.Loose)
    (hadd : builder.add statement = some next) : Orderly next.root := by
  cases statement with
  | openTable path =>
      obtain ⟨root, hroot, rfl⟩ := Option.map_eq_some_iff.1 hadd
      exact h.openTable hroot
  | openElement path =>
      obtain ⟨root, hroot, rfl⟩ := Option.map_eq_some_iff.1 hadd
      exact h.openElement hroot
  | assign path written =>
      obtain ⟨value, hvalue, hassign⟩ := Option.bind_eq_some_iff.1 hadd
      obtain ⟨root, hroot, rfl⟩ := Option.map_eq_some_iff.1 hassign
      exact (keepsOrder_assign path (hloose.ascends hvalue)).changeAt _ _ _ _ h hroot

/-- So do all statements of a document. -/
theorem Orderly.run {statements : List Statement} {builder final : Builder}
    (h : Orderly builder.root) (hloose : ∀ statement ∈ statements, statement.Loose)
    (hrun : statements.foldlM Builder.add builder = some final) : Orderly final.root := by
  induction statements generalizing builder with
  | nil =>
      cases hrun
      exact h
  | cons statement rest ih =>
      rw [List.foldlM_cons] at hrun
      obtain ⟨next, hnext, hrest⟩ := Option.bind_eq_some_iff.1 hrun
      rw [List.forall_mem_cons] at hloose
      exact ih (h.add hloose.1 hnext) hloose.2 hrest

/-- Characters without quotes and brackets spell neither an array nor a table. -/
theorem loose_of_scalar {cs : List Char} (h : scalar? cs = some value) :
    (Written.value value).Loose := by
  rw [scalar?] at h
  split_ifs at h
  · cases h; trivial
  · cases h; trivial
  · cases h; trivial
  · split at h
    · cases h
      split <;> trivial
    · obtain ⟨fits, -, rfl⟩ := Option.map_eq_some_iff.1 h
      split <;> trivial

mutual

/-- Reading a value finishes no array and no table. -/
theorem loose_of_writtenValue : ∀ {fuel depth : Nat} {tokens rest : List Token} {written : Written},
    writtenValue fuel depth tokens = some (written, rest) → written.Loose
  | 0, _, _, _, _, h => by cases h
  | fuel + 1, depth, tokens, rest, written, h => by
      rw [writtenValue.eq_def] at h
      split at h
      · cases h
      · cases h
        trivial
      · cases h
        trivial
      · -- The pattern for brackets names the fuel anew.
        rename_i hfuel
        cases hfuel
        exact loose_of_writtenItems (by simp) h
      · rename_i hfuel
        cases hfuel
        exact loose_of_writtenEntries (by simp) h
      · obtain ⟨value, hvalue, h⟩ := Option.bind_eq_some_iff.1 h
        cases h
        exact loose_of_scalar hvalue

/-- Nor does reading the items of an array. -/
theorem loose_of_writtenItems : ∀ {fuel depth : Nat} {read : List Written}
    {tokens rest : List Token} {written : Written}, (∀ item ∈ read, item.Loose) →
      writtenItems fuel depth read tokens = some (written, rest) → written.Loose
  | 0, _, _, _, _, _, _, h => by cases h
  | fuel + 1, depth, read, tokens, rest, written, hread, h => by
      rw [writtenItems] at h
      split at h
      · cases h
        exact itemsLoose_iff.2 fun item hmem => hread item (List.mem_reverse.1 hmem)
      · obtain ⟨⟨item, after⟩, hitem, h⟩ := Option.bind_eq_some_iff.1 h
        dsimp only at h
        have hread' := List.forall_mem_cons.2 ⟨loose_of_writtenValue hitem, hread⟩
        split at h
        · exact loose_of_writtenItems hread' h
        · cases h
          exact itemsLoose_iff.2 fun item hmem => hread' item (List.mem_reverse.1 hmem)
        · cases h

/-- Nor does reading the entries between braces. -/
theorem loose_of_writtenEntries : ∀ {fuel depth : Nat} {read : List (KeyPath × Written)}
    {tokens rest : List Token} {written : Written}, (∀ entry ∈ read, entry.2.Loose) →
      writtenEntries fuel depth read tokens = some (written, rest) → written.Loose
  | 0, _, _, _, _, _, _, h => by cases h
  | fuel + 1, depth, read, tokens, rest, written, hread, h => by
      rw [writtenEntries] at h
      split at h
      · cases h
        exact entriesLoose_iff.2 fun entry hmem => hread entry (List.mem_reverse.1 hmem)
      · obtain ⟨⟨path, after⟩, -, h⟩ := Option.bind_eq_some_iff.1 h
        dsimp only at h
        split at h
        · obtain ⟨⟨value, after⟩, hvalue, h⟩ := Option.bind_eq_some_iff.1 h
          dsimp only at h
          have hread' : ∀ entry ∈ (path, value) :: read, entry.2.Loose :=
            List.forall_mem_cons.2 ⟨loose_of_writtenValue hvalue, hread⟩
          split at h
          · exact loose_of_writtenEntries hread' h
          · cases h
            exact entriesLoose_iff.2 fun entry hmem => hread' entry (List.mem_reverse.1 hmem)
          · cases h
        · cases h

end

/-- A line of a document brings no finished array or table. -/
theorem loose_of_statement (h : statement? tokens = some (statement, rest)) : statement.Loose := by
  rw [statement?.eq_def] at h
  split at h
  · obtain ⟨⟨path, after⟩, -, h⟩ := Option.bind_eq_some_iff.1 h
    dsimp only at h
    split at h <;> cases h
    trivial
  · obtain ⟨⟨path, after⟩, -, h⟩ := Option.bind_eq_some_iff.1 h
    dsimp only at h
    split at h <;> cases h
    trivial
  · obtain ⟨⟨path, after⟩, -, h⟩ := Option.bind_eq_some_iff.1 h
    dsimp only at h
    split at h
    · obtain ⟨⟨written, after⟩, hwritten, h⟩ := Option.bind_eq_some_iff.1 h
      cases h
      exact loose_of_writtenValue hwritten
    · cases h

/-- No line does. -/
theorem loose_of_statementsFrom : ∀ {fuel : Nat} {tokens : List Token} {statements : List Statement},
    statementsFrom fuel tokens = some statements → ∀ statement ∈ statements, statement.Loose
  | 0, _, _, h => by
      rw [statementsFrom] at h
      split_ifs at h
      cases h
      simp
  | fuel + 1, tokens, statements, h => by
      rw [statementsFrom] at h
      split at h
      · cases h
        simp
      · obtain ⟨⟨statement, after⟩, hstatement, h⟩ := Option.bind_eq_some_iff.1 h
        have hfirst := loose_of_statement hstatement
        dsimp only at h
        split at h
        · cases h
          exact List.forall_mem_singleton.2 hfirst
        · obtain ⟨following, hfollowing, h⟩ := Option.bind_eq_some_iff.1 h
          cases h
          exact List.forall_mem_cons.2 ⟨hfirst, loose_of_statementsFrom hfollowing⟩
        · cases h

/-- The keys of all tables in a document ascend. -/
theorem parse?_ascends {document : String} {entries : List (String × Value)}
    (h : parse? document = some entries) : (Value.table entries).Ascends := by
  obtain ⟨statements, hstatements, h⟩ := Option.bind_eq_some_iff.1 h
  obtain ⟨builder, hbuilder, h⟩ := Option.bind_eq_some_iff.1 h
  obtain ⟨tokens, -, hlines⟩ := Option.bind_eq_some_iff.1 hstatements
  cases h
  exact Orderly.run orderly_nil (loose_of_statementsFrom hlines) hbuilder

end Runbook.Toml
