import Mathlib.Data.List.Perm.Basic
import Runbook.Checksum.Pool

/-!
# The order of failure reports

Failures reach the report of a batch in the order in which its tasks happen to be joined. Sorting
them by position restores the order of the items and leaves the lost workers, which know no
position, for the end. `sorted_reports_of_perm` says so for whatever order the failures came in.
-/

namespace Runbook.Checksum

namespace PlacedFailure

/-- The order of reports is transitive. -/
theorem not_after_trans (first second third : PlacedFailure) (h : first.notAfter second = true)
    (hnext : second.notAfter third = true) : first.notAfter third = true := by
  unfold notAfter at h hnext ⊢
  cases hthird : third.place with
  | none => rfl
  | some k =>
      cases hsecond : second.place with
      | none => simp [hsecond, hthird] at hnext
      | some j =>
          cases hfirst : first.place with
          | none => simp [hfirst, hsecond] at h
          | some i =>
              simp only [hfirst, hsecond, hthird, decide_eq_true_eq] at h hnext ⊢
              omega

/-- Of two reports at least one may be in front of the other. -/
theorem not_after_total (first second : PlacedFailure) :
    (first.notAfter second || second.notAfter first) = true := by
  unfold notAfter
  cases first.place with
  | none => cases second.place <;> rfl
  | some i =>
      cases second.place with
      | none => rfl
      | some j =>
          simp only [Bool.or_eq_true, decide_eq_true_eq]
          omega

/-- Two reports with positions that may each be in front of the other have the same position. -/
theorem place_eq_of_not_after {first second : PlacedFailure} (h : first.notAfter second = true)
    (hback : second.notAfter first = true) (hfirst : first.place.isSome = true)
    (hsecond : second.place.isSome = true) : first.place = second.place := by
  obtain ⟨i, hi⟩ := Option.isSome_iff_exists.1 hfirst
  obtain ⟨j, hj⟩ := Option.isSome_iff_exists.1 hsecond
  simp only [notAfter, hi, hj, decide_eq_true_eq] at h hback
  rw [hi, hj, show i = j by omega]

end PlacedFailure

/-- In a list in which nothing that has a property follows what lacks it, all that has the property
comes first. -/
theorem filter_append_of_pairwise {β : Type} (p : β → Bool) {entries : List β}
    (h : entries.Pairwise fun first second => p second = true → p first = true) :
    entries.filter p ++ entries.filter (fun entry => !p entry) = entries := by
  induction h with
  | nil => rfl
  | @cons entry rest hentry _ ih =>
      by_cases hp : p entry = true
      · simpa [List.filter_cons, hp] using ih
      · have hnone : rest.filter p = [] := by
          rw [List.filter_eq_nil_iff]
          exact fun other hother hholds => hp (hentry other hother hholds)
        rw [hnone, List.nil_append] at ih
        simp [hp, hnone, ih]

/-- Sorting restores the order of the reports that have positions and puts the others behind them,
whatever the order in which all of them came. -/
theorem sorted_reports_of_perm {placed named lost : List PlacedFailure}
    (hperm : placed.Perm (named ++ lost))
    (hnamed : ∀ report ∈ named, report.place.isSome = true)
    (hlost : ∀ report ∈ lost, report.place.isSome = false)
    (hdistinct : ∀ first ∈ named, ∀ second ∈ named, first.place = second.place → first = second)
    (hordered : named.Pairwise fun first second => first.notAfter second = true) :
    ∃ last, last.Perm lost ∧ placed.mergeSort PlacedFailure.notAfter = named ++ last := by
  let sorted := placed.mergeSort PlacedFailure.notAfter
  have hsorted : sorted.Pairwise fun first second => first.notAfter second = true :=
    List.pairwise_mergeSort PlacedFailure.not_after_trans PlacedFailure.not_after_total placed
  have hall : sorted.Perm (named ++ lost) := (List.mergeSort_perm _ _).trans hperm
  have hsplit : sorted.filter (fun report => report.place.isSome) ++
      sorted.filter (fun report => !report.place.isSome) = sorted := by
    refine filter_append_of_pairwise _ (hsorted.imp ?_)
    intro first second hbefore hplace
    obtain ⟨j, hj⟩ := Option.isSome_iff_exists.1 hplace
    cases hi : first.place with
    | none => simp [PlacedFailure.notAfter, hi, hj] at hbefore
    | some i => rfl
  have hfront : (sorted.filter fun report => report.place.isSome).Perm named := by
    have hkept : (named ++ lost).filter (fun report => report.place.isSome) = named := by
      rw [List.filter_append, List.filter_eq_self.2 hnamed,
        List.filter_eq_nil_iff.2 fun report hmem => by simp [hlost report hmem], List.append_nil]
    exact hkept ▸ hall.filter _
  have hback : (sorted.filter fun report => !report.place.isSome).Perm lost := by
    have hkept : (named ++ lost).filter (fun report => !report.place.isSome) = lost := by
      rw [List.filter_append,
        List.filter_eq_nil_iff.2 fun report hmem => by simp [hnamed report hmem],
        List.filter_eq_self.2 fun report hmem => by simp [hlost report hmem], List.nil_append]
    exact hkept ▸ hall.filter _
  -- A list with distinct positions can be put in order in one way only.
  have hnames : (sorted.filter fun report => report.place.isSome) = named := by
    refine hfront.eq_of_pairwise ?_ (hsorted.filter _) hordered
    intro first second hfirst hsecond hbefore hafter
    have hmem := hfront.mem_iff.1 hfirst
    exact hdistinct first hmem second hsecond (PlacedFailure.place_eq_of_not_after hbefore hafter
      (hnamed first hmem) (hnamed second hsecond))
  exact ⟨_, hback, by rw [← hnames, hsplit]⟩

variable {α : Type}

/-- The failures that a completion reports from a position, given the label of that position. -/
def Completion.reports (completion : Completion α) (index : Nat) (label : String) :
    List PlacedFailure :=
  (completion.outcome.itemFailure? label).toList.map (PlacedFailure.mk (some index)) ++
    completion.outcome.workerFailure?.toList.map (PlacedFailure.mk none)

/-- All reports on a batch, in the order of the items. -/
def allReports (work : Work α) (items : List α) : List PlacedFailure :=
  items.zipIdx.flatMap fun (item, index) => (work.compute item).reports index (work.label item)

/-- The reports that name an item, in the order of the items. -/
def namedReports (work : Work α) (items : List α) : List PlacedFailure :=
  items.zipIdx.flatMap fun (item, index) =>
    ((work.compute item).outcome.itemFailure? (work.label item)).toList.map
      (PlacedFailure.mk (some index))

/-- The reports on lost workers, in the order of the items. -/
def lostReports (work : Work α) (items : List α) : List PlacedFailure :=
  items.flatMap fun item =>
    (work.compute item).outcome.workerFailure?.toList.map (PlacedFailure.mk none)

variable {work : Work α} {items : List α}

/-- Every report either names an item or is on a lost worker. -/
theorem all_reports_perm :
    (allReports work items).Perm (namedReports work items ++ lostReports work items) := by
  have hlost : lostReports work items = items.zipIdx.flatMap fun (item, _) =>
      (work.compute item).outcome.workerFailure?.toList.map (PlacedFailure.mk none) := by
    conv_lhs => rw [lostReports, ← List.zipIdx_map_fst 0 items, List.flatMap_map]
  rw [hlost]
  exact (List.flatMap_append_perm _ _ _).symm

/-- A report that names an item carries the position of that item. -/
theorem mem_named_reports {report : PlacedFailure} (h : report ∈ namedReports work items) :
    ∃ item index, items[index]? = some item ∧ report.place = some index ∧
      (work.compute item).outcome.itemFailure? (work.label item) = some report.failure := by
  obtain ⟨⟨item, index⟩, hmem, hreport⟩ := List.mem_flatMap.1 h
  obtain ⟨failure, hfailure, rfl⟩ := List.mem_map.1 hreport
  exact ⟨item, index, List.mk_mem_zipIdx_iff_getElem?.1 hmem, rfl, Option.mem_toList.1 hfailure⟩

/-- Two reports that name the same position are the same. -/
theorem named_reports_distinct {first second : PlacedFailure}
    (hfirst : first ∈ namedReports work items) (hsecond : second ∈ namedReports work items)
    (hplace : first.place = second.place) : first = second := by
  obtain ⟨item, index, hitem, hindex, hfailure⟩ := mem_named_reports hfirst
  obtain ⟨other, position, hother, hposition, hagain⟩ := mem_named_reports hsecond
  obtain rfl : index = position := by
    rw [hindex, hposition] at hplace
    exact Option.some.inj hplace
  obtain rfl : item = other := Option.some.inj (hitem.symm.trans hother)
  cases first
  cases second
  simp_all

/-- The reports that name an item are in order. -/
theorem named_reports_ordered :
    (namedReports work items).Pairwise fun first second => first.notAfter second = true := by
  have hpositions : items.zipIdx.Pairwise fun first second => first.2 < second.2 := by
    rw [← List.pairwise_map (f := Prod.snd), List.zipIdx_map_snd]
    exact List.pairwise_lt_range'
  refine List.pairwise_flatMap.2 ⟨fun entry _ => ?_, hpositions.imp ?_⟩
  · obtain ⟨item, index⟩ := entry
    dsimp only
    cases (work.compute item).outcome.itemFailure? (work.label item) with
    | none => exact .nil
    | some failure => exact List.pairwise_singleton _ _
  · intro first second hlt report hreport other hother
    obtain ⟨failure, _, rfl⟩ := List.mem_map.1 hreport
    obtain ⟨otherFailure, _, rfl⟩ := List.mem_map.1 hother
    simpa [PlacedFailure.notAfter] using Nat.le_of_lt hlt

/-- What the reports that name an item say. -/
theorem map_failure_named_reports :
    (namedReports work items).map PlacedFailure.failure =
      items.filterMap fun item => (work.compute item).outcome.itemFailure? (work.label item) := by
  conv_rhs => rw [← List.zipIdx_map_fst 0 items]
  rw [namedReports, List.map_flatMap, List.filterMap_map, List.filterMap_eq_flatMap_toList]
  simp [Function.comp_def]

/-- What the reports on lost workers say. -/
theorem map_failure_lost_reports :
    (lostReports work items).map PlacedFailure.failure =
      items.filterMap fun item => (work.compute item).outcome.workerFailure? := by
  rw [lostReports, List.map_flatMap, List.filterMap_eq_flatMap_toList]
  simp [Function.comp_def]

/-- The failures of a batch as they are reported in the end, whatever the order in which they came:
those that name an item in the order of the items, and then the lost workers. -/
theorem sorted_failures_of_perm {placed : List PlacedFailure}
    (hperm : placed.Perm (allReports work items)) :
    ∃ lost : List ItemFailure,
      lost.Perm (items.filterMap fun item => (work.compute item).outcome.workerFailure?) ∧
      (placed.mergeSort PlacedFailure.notAfter).map PlacedFailure.failure =
        (items.filterMap fun item =>
          (work.compute item).outcome.itemFailure? (work.label item)) ++ lost := by
  obtain ⟨last, hlast, hsorted⟩ := sorted_reports_of_perm (hperm.trans all_reports_perm)
    (fun report hmem => by
      obtain ⟨_, _, _, hplace, _⟩ := mem_named_reports hmem
      rw [hplace]
      rfl)
    (fun report hmem => by
      obtain ⟨item, _, hreport⟩ := List.mem_flatMap.1 hmem
      obtain ⟨_, _, rfl⟩ := List.mem_map.1 hreport
      rfl)
    (fun first hfirst second hsecond => named_reports_distinct hfirst hsecond)
    named_reports_ordered
  refine ⟨last.map PlacedFailure.failure, ?_, ?_⟩
  · rw [← map_failure_lost_reports]
    exact hlast.map _
  · rw [hsorted, List.map_append, map_failure_named_reports]

end Runbook.Checksum
