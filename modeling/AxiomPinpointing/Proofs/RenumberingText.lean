import AxiomPinpointing.Proofs.EntryLines

/-!
# Written index maps

An index map is written as one line per entry, and the text of an entry is the rest of its line.  It
comes back as it was if it is an **entry text**: not empty, without blanks at its two ends, and all
on one line.  Any other text is lost, as every text that the reader takes off a line is an entry
text.

The reader only ever pushes axioms, so that the table of positions needs no attention here: what has
been read is the renumbering of some axioms (`Renumbering.ofAxioms`), like what was written.
-/

namespace AxiomPinpointing.Renumbering

open Text

/-- Holds of the texts that an entry may have if it is to be read back. -/
structure IsEntryText (text : String) : Prop where
  nonempty : text ≠ ""
  starts : StartsFilled text.toList
  ends : EndsFilled text.toList
  oneLine : '\n' ∉ text.toList

lemma isEntryText_iff {text : String} :
    IsEntryText text ↔ text ≠ "" ∧ StartsFilled text.toList ∧ EndsFilled text.toList ∧
      '\n' ∉ text.toList :=
  ⟨fun ⟨nonempty, starts, ends, oneLine⟩ => ⟨nonempty, starts, ends, oneLine⟩,
    fun ⟨nonempty, starts, ends, oneLine⟩ => ⟨nonempty, starts, ends, oneLine⟩⟩

instance (text : String) : Decidable (IsEntryText text) :=
  decidable_of_iff _ isEntryText_iff.symm

lemma IsEntryText.ne_nil {text : String} (h : IsEntryText text) : text.toList ≠ [] :=
  mt String.toList_eq_nil_iff.mp h.nonempty

/-! ## Written entries -/

lemma isWord_toString_id (id : AxiomId) : IsWord (toString id) :=
  isWord_toString_nat id.value.toNat

/-- A line without its newline. -/
def body (entry : Entry) : String :=
  toString entry.place ++ " " ++ (toString entry.id ++ " " ++ entry.text)

lemma line_eq (entry : Entry) : entry.line = body entry ++ "\n" := by
  simp only [Entry.line, body, String.append_assoc]
  rfl

lemma toList_body (entry : Entry) :
    (body entry).toList = (toString entry.place).toList ++
      ' ' :: ((toString entry.id).toList ++ ' ' :: entry.text.toList) := by
  simp only [body, String.toList_append, List.append_assoc]
  rfl

lemma newline_notMem_body {entry : Entry} (h : IsEntryText entry.text) :
    '\n' ∉ (body entry).toList := by
  have place := newline_notMem_of_isWord (isWord_toString_nat entry.place)
  have id := newline_notMem_of_isWord (isWord_toString_id entry.id)
  have space : '\n' ≠ ' ' := by decide
  rw [toList_body, List.mem_append, List.mem_cons, List.mem_append, List.mem_cons]
  rintro (mem | mem | mem | mem | mem)
  · exact place mem
  · exact space mem
  · exact id mem
  · exact space mem
  · exact h.oneLine mem

/-- **The lines of a written map.** -/
lemma lines_text {map : Renumbering} (h : ∀ entry ∈ map.entries, IsEntryText entry.text) :
    (Source.ofText map.text).lines = map.entries.toList.map fun entry => .text entry.line := by
  have written : map.text = String.join ((map.entries.toList.map body).map (· ++ "\n")) := by
    rw [text, List.map_map]
    exact congrArg String.join (List.map_congr_left fun entry _ => line_eq entry)
  rw [written, Source.lines_ofText_join, List.map_map]
  · exact List.map_congr_left fun entry _ => congrArg Line.text (line_eq entry).symm
  · intro _ mem
    obtain ⟨entry, known, rfl⟩ := List.mem_map.mp mem
    exact newline_notMem_body (h entry (Array.mem_toList_iff.mp known))

/-! ## Reading them back -/

/-- A written line has the parts that it was put together from. -/
lemma entryParts_line {entry : Entry} (h : IsEntryText entry.text) :
    EntryParts entry.line (toString entry.place) (toString entry.id) entry.text where
  layout := by
    have space : IsRun " " ∧ " " ≠ "" := ⟨isRun_space, by decide⟩
    refine ⟨"", " ", " ", "\n", List.forall_mem_nil _, space, space, isRun_newline, ?_⟩
    simp only [line_eq, body, String.empty_append, String.append_assoc]
  place := isWord_toString_nat entry.place
  id := isWord_toString_id entry.id
  nonempty := h.nonempty
  starts := h.starts
  ends := h.ends

/-- **Written entries are read**, each at its place. -/
lemma entriesOn_lines (axioms : List (AxiomId × String))
    (h : ∀ listed ∈ axioms, IsEntryText listed.2) {before : Nat}
    (fits : before + axioms.length < 2 ^ 64) :
    EntriesOn before ((entriesFrom before axioms).map fun entry => .text entry.line)
      (entriesFrom before axioms) := by
  induction axioms generalizing before with
  | nil => exact .nil
  | cons listed axioms ih =>
    obtain ⟨text, others⟩ := List.forall_mem_cons.mp h
    rw [List.length_cons] at fits
    have parts := @entryParts_line ⟨before + 1, listed.1, listed.2⟩ text
    have filled : words (Entry.line ⟨before + 1, listed.1, listed.2⟩) ≠ [] := by
      rw [parts.words]
      exact List.cons_ne_nil _ _
    have place : before + 1 < 2 ^ 64 := by omega
    rw [entriesFrom_cons, List.map_cons, EntriesOn, placedLines_cons filled]
    refine .cons ⟨_, _, rfl, parts, ⟨_, unsigned64?_toString_of_lt place, ?_⟩, rfl⟩
      (ih others (by omega))
    exact UInt64.toNat_ofNat_of_lt' place

/-- The texts of the entries are those of the axioms. -/
lemma forall_text_ofAxioms_iff {axioms : List (AxiomId × String)} {p : String → Prop} :
    (∀ entry ∈ (ofAxioms axioms).entries, p entry.text) ↔ ∀ listed ∈ axioms, p listed.2 := by
  rw [← map_listed_entriesFrom 0 axioms, List.forall_mem_map, map_listed_entriesFrom,
    ← entries_ofAxioms]
  simp only [Array.mem_toList_iff]
  rfl

lemma read_text_of_entryTexts {axioms : List (AxiomId × String)} (fits : axioms.length < 2 ^ 64)
    (h : ∀ listed ∈ axioms, IsEntryText listed.2) :
    read (.ofText (ofAxioms axioms).text) = .ok (ofAxioms axioms) := by
  rw [read_eq_ok_iff, lines_text (forall_text_ofAxioms_iff.mpr h), entries_ofAxioms]
  exact ⟨by simp, ⟨axioms, rfl⟩, entriesOn_lines axioms h (by omega)⟩

/-! ## What the reader accepts -/

/-- The text of an entry is an entry text, as its line has no newline but at the end. -/
lemma EntryParts.isEntryText {source : Source} {content place id text : String}
    (h : EntryParts content place id text) (mem : .text content ∈ source.lines) :
    IsEntryText text := by
  refine ⟨h.nonempty, h.starts, h.ends, fun newline => ?_⟩
  obtain ⟨before, gap, gap', after, -, -, -, -, rfl⟩ := h.layout
  refine Source.newline_notMem_dropLast mem ?_
  simp only [String.toList_append, ← List.append_assoc]
  exact mem_dropLast_of_blank h.ends newline rfl

/-- What is known of what has been read. -/
structure Readable (map : Renumbering) : Prop where
  pushed : map.Pushed
  fits : map.size < 2 ^ 64
  texts : ∀ entry ∈ map.entries, IsEntryText entry.text

/-- **What has been read can be written and read again.** -/
lemma readable_of_read {source : Source} {map : Renumbering} (h : read source = .ok map) :
    map.Readable := by
  obtain ⟨-, pushed, all⟩ := read_eq_ok_iff.mp h
  refine ⟨pushed, ?_, fun entry mem => ?_⟩
  · -- the place of the last entry is a word
    rw [size, ← Array.length_toList]
    obtain none | ⟨front, last, split⟩ := List.eq_nil_or_concat' map.entries.toList
    · simp [none]
    · have here := List.getElem?_concat_length (l := front) (a := last)
      rw [← split] at here
      obtain ⟨line, -, _, _, -, -, ⟨value, -, place⟩, -⟩ := all.exists_entryOn here
      have bound := value.toNat_lt
      rw [split, List.length_append, List.length_singleton]
      omega
  · obtain ⟨k, here⟩ := List.getElem?_of_mem (Array.mem_toList_iff.mpr mem)
    obtain ⟨_, known, content, _, rfl, parts, -⟩ := all.exists_entryOn here
    exact parts.isEntryText known

lemma Readable.read_text {map : Renumbering} (h : map.Readable) :
    read (.ofText map.text) = .ok map := by
  obtain ⟨axioms, rfl⟩ := h.pushed
  exact read_text_of_entryTexts (size_ofAxioms axioms ▸ h.fits)
    (forall_text_ofAxioms_iff.mp h.texts)

/-! ## The round trip -/

/-- **Writing and reading index maps, exactly.**  A renumbering of fewer than 2⁶⁴ axioms reads back
as itself if all of them have an entry text, and only then.  Whatever source a renumbering is read
from, it can be written and read again. -/
theorem read_text_iff_entryTexts :
    (∀ axioms : List (AxiomId × String), axioms.length < 2 ^ 64 →
      (read (.ofText (ofAxioms axioms).text) = .ok (ofAxioms axioms) ↔
        ∀ listed ∈ axioms, listed.2 ≠ "" ∧ StartsFilled listed.2.toList ∧
          EndsFilled listed.2.toList ∧ '\n' ∉ listed.2.toList)) ∧
    ∀ source map, read source = .ok map →
      (∀ entry ∈ map.entries, entry.text ≠ "" ∧ StartsFilled entry.text.toList ∧
        EndsFilled entry.text.toList ∧ '\n' ∉ entry.text.toList) ∧
      read (.ofText map.text) = .ok map := by
  simp only [← isEntryText_iff]
  refine ⟨fun axioms fits => ⟨fun back => ?_, read_text_of_entryTexts fits⟩,
    fun source map accepted => ?_⟩
  · exact forall_text_ofAxioms_iff.mp (readable_of_read back).texts
  · have readable := readable_of_read accepted
    exact ⟨readable.texts, readable.read_text⟩

/-- Blanks inside a text are kept, and a blank at its end is lost.  A source that spells its places
in another way is read, and can be written. -/
theorem read_text_of_inner_blanks :
    read (.ofText (text (ofAxioms [(⟨18446744073709551615⟩, "(implies A  B)"), (⟨0⟩, "r\ts")]))) =
      .ok (ofAxioms [(⟨18446744073709551615⟩, "(implies A  B)"), (⟨0⟩, "r\ts")]) ∧
    read (.ofText (text (ofAxioms [(⟨7⟩, "A ")]))) ≠ .ok (ofAxioms [(⟨7⟩, "A ")]) ∧
    ∃ map, read (.ofText "\n +01 7  (implies A  B) \n") = .ok map ∧
      read (.ofText map.text) = .ok map := by
  refine ⟨(read_text_iff_entryTexts.1 _ (by decide)).mpr (by decide),
    mt (read_text_iff_entryTexts.1 _ (by decide)).mp (by decide), ?_⟩
  have accepted : read (.ofText "\n +01 7  (implies A  B) \n") =
      .ok (ofAxioms [(⟨7⟩, "(implies A  B)")]) := rfl
  exact ⟨_, accepted, (read_text_iff_entryTexts.2 _ _ accepted).2⟩

end AxiomPinpointing.Renumbering
