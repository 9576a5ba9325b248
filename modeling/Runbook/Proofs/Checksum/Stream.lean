import Runbook.Checksum.Digest
import Runbook.Proofs.Checksum.Transcript

/-!
# Streams of entries are told apart

A digest that takes in labelled values one after the other takes in a stream of octets from which
they can be read back. So no change of the entries goes unnoticed that changes their texts: entries
that are added, dropped, merged, split or swapped, and text that moves from one value to the next.
The main theorem is `entries_told_apart`.
-/

namespace Runbook.Checksum

/-- What a digest has taken in after a sequence of entries. -/
def streamOf (sink : Sink) (entries : List Entry) : List UInt8 :=
  (entries.foldl addEntry sink).octets

variable {sink : Sink} {first second : List Entry}

/-- One stream begins with another exactly if the texts of the entries do. -/
theorem streamOf_prefix_iff :
    streamOf sink first <+: streamOf sink second ↔
      first.map Entry.text <+: second.map Entry.text := by
  rw [streamOf, streamOf, octets_foldl_addEntry, octets_foldl_addEntry,
    List.prefix_append_right_inj, transcript_prefix_iff]

/-- Streams are equal exactly if the texts of the entries are. -/
theorem streamOf_eq_iff :
    streamOf sink first = streamOf sink second ↔ first.map Entry.text = second.map Entry.text := by
  rw [streamOf, streamOf, octets_foldl_addEntry, octets_foldl_addEntry, List.append_cancel_left_eq,
    transcript_eq_iff]

/-- Streams are equal exactly if the entries are, if no label has an equals sign. -/
theorem streamOf_eq_iff_of_labels (hfirst : ∀ entry ∈ first, '=' ∉ entry.label.toList)
    (hsecond : ∀ entry ∈ second, '=' ∉ entry.label.toList) :
    streamOf sink first = streamOf sink second ↔ first = second := by
  rw [streamOf_eq_iff, ← transcript_eq_iff]
  exact ⟨entries_of_transcript hfirst hsecond, congrArg transcript⟩

/-- Streams of different numbers of entries are different. -/
theorem streamOf_ne_of_length (hlength : first.length ≠ second.length) :
    streamOf sink first ≠ streamOf sink second := by
  intro h
  have hlengths := congrArg List.length (streamOf_eq_iff.1 h)
  rw [List.length_map, List.length_map] at hlengths
  exact hlength hlengths

/-- Streams in which one entry has different texts are different, whatever stands behind it. -/
theorem streamOf_ne_of_text {front back others : List Entry} {entry other : Entry}
    (htext : entry.text ≠ other.text) :
    streamOf sink (front ++ entry :: back) ≠ streamOf sink (front ++ other :: others) := by
  intro h
  have htexts := streamOf_eq_iff.1 h
  rw [List.map_append, List.map_append, List.append_cancel_left_eq] at htexts
  exact htext (List.cons.inj htexts).1

/-- A text that is not empty is noticed at the end of a value. -/
theorem text_append_ne {label value moved : String} (hmoved : moved ≠ "") :
    (Entry.mk label (value ++ moved)).text ≠ (Entry.mk label value).text := by
  intro h
  have hcharacters := congrArg String.toList h
  simp only [Entry.text, String.toList_append, List.append_assoc, List.append_cancel_left_eq,
    List.append_right_eq_self] at hcharacters
  exact hmoved (String.toList_eq_nil_iff.1 hcharacters)

/-- The octets that a digest takes in tell the sequences of entries apart, whatever their labels and
values contain and whatever it has taken in before. They are the same exactly if the texts of the
entries are, and if no label has an equals sign, exactly if the labels and values are. One stream
begins with another only if its entries do. So entries cannot be added, dropped, merged or split
unnoticed, entries with different texts cannot be swapped, and no text can move from the end of a
value to the begin of the next one. -/
theorem entries_told_apart (sink : Sink) :
    (∀ first second, streamOf sink first = streamOf sink second ↔
      first.map Entry.text = second.map Entry.text) ∧
    (∀ first second, (∀ entry ∈ first, '=' ∉ entry.label.toList) →
      (∀ entry ∈ second, '=' ∉ entry.label.toList) →
        (streamOf sink first = streamOf sink second ↔ first = second)) ∧
    (∀ first second, streamOf sink first <+: streamOf sink second ↔
      first.map Entry.text <+: second.map Entry.text) ∧
    (∀ first second : List Entry, first.length ≠ second.length →
      streamOf sink first ≠ streamOf sink second) ∧
    (∀ front middle back (entry other : Entry), entry.text ≠ other.text →
      streamOf sink (front ++ entry :: (middle ++ other :: back)) ≠
        streamOf sink (front ++ other :: (middle ++ entry :: back))) ∧
    ∀ front back label value moved next rest, moved ≠ "" →
      streamOf sink (front ++ ⟨label, value ++ moved⟩ :: ⟨next, rest⟩ :: back) ≠
        streamOf sink (front ++ ⟨label, value⟩ :: ⟨next, moved ++ rest⟩ :: back) :=
  ⟨fun _ _ => streamOf_eq_iff, fun _ _ hfirst hsecond => streamOf_eq_iff_of_labels hfirst hsecond,
    fun _ _ => streamOf_prefix_iff, fun _ _ hlength => streamOf_ne_of_length hlength,
    fun _ _ _ _ _ htext => streamOf_ne_of_text htext,
    fun _ _ _ _ _ _ _ hmoved => streamOf_ne_of_text (text_append_ne hmoved)⟩

/-- A value that imitates the end of its own entry and the whole of another one is told apart from
the two entries. An equals sign in a label, however, is not told apart from the mark behind it. -/
theorem entries_told_apart_of_forged_frame :
    streamOf .empty [⟨"id", "1\n10:author=ops"⟩] ≠
        streamOf .empty [⟨"id", "1"⟩, ⟨"author", "ops"⟩] ∧
      streamOf .empty [⟨"id", "1"⟩, ⟨"author", "ops"⟩] ≠
        streamOf .empty [⟨"author", "ops"⟩, ⟨"id", "1"⟩] ∧
      streamOf .empty [⟨"id=1", "2"⟩] = streamOf .empty [⟨"id", "1=2"⟩] := by
  obtain ⟨htexts, hlabels, _, hlength, _⟩ := entries_told_apart .empty
  refine ⟨hlength _ _ (by decide), ?_, (htexts _ _).2 (by decide)⟩
  exact mt (hlabels _ _ (by decide) (by decide)).1 (by decide)

end Runbook.Checksum
