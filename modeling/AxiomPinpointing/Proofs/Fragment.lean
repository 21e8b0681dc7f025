import AxiomPinpointing.Extraction
import AxiomPinpointing.Proofs.ModuleLine
import AxiomPinpointing.Proofs.ModuleLoop
import AxiomPinpointing.Proofs.Reversibility

/-!
# Fragment and index map, line by line

Line k of a fragment is the axiom of the k-th number of the module, and line k of the index map says
so.  The two stay together because the text of an axiom is an entry text: it is made of words that
were read off a line, joined by single blanks, so that no newline and no blank can get to its ends.
The only word that was not read is the marker, and of it that has to be assumed.

What is known of an extraction is kept by every number of the module (`Extraction.Lined.next`).
-/

namespace AxiomPinpointing

open Text Renumbering

/-! ## Texts of axioms -/

namespace Renumbering

lemma isEntryText_of_isWord {word : String} (h : IsWord word) : IsEntryText word where
  nonempty := h.1
  starts c first := h.2 c (List.mem_of_head? first)
  ends c last := h.2 c (List.mem_of_getLast? last)
  oneLine := newline_notMem_of_isWord h

/-- Two entry texts with a blank between them make one. -/
lemma IsEntryText.append_space {x y : String} (hx : IsEntryText x) (hy : IsEntryText y) :
    IsEntryText (x ++ " " ++ y) := by
  have split : (x ++ " " ++ y).toList = x.toList ++ ' ' :: y.toList := by simp
  constructor
  · intro none
    rw [none] at split
    simp at split
  · intro c first
    rw [split, List.head?_append_of_ne_nil _ hx.ne_nil] at first
    exact hx.starts c first
  · rw [split]
    exact endsFilled_append (by simp) (endsFilled_cons hy.ne_nil hy.ends)
  · rw [split]
    simp [hx.oneLine, hy.oneLine]

lemma isEntryText_intercalate {text : String} {texts : List String}
    (h : ∀ t ∈ text :: texts, IsEntryText t) :
    IsEntryText (" ".intercalate (text :: texts)) := by
  induction texts generalizing text with
  | nil =>
    rw [String.intercalate_singleton]
    exact h text List.mem_cons_self
  | cons other texts ih =>
    rw [List.forall_mem_cons] at h
    rw [String.intercalate_cons_of_ne_nil (by simp)]
    exact h.1.append_space (ih h.2)

end Renumbering

/-- Holds of the definitions that were put together from words. -/
def Definition.Worded (d : Definition) : Prop :=
  ∀ word ∈ d.words, IsWord word

lemma Axiom.isEntryText_text {marker : String} (plain : IsEntryText marker) {a : Axiom}
    (h : a.definition.Worded) : IsEntryText (a.text marker) := by
  have read : ∀ word ∈ a.definition.words, IsEntryText word :=
    fun word mem => isEntryText_of_isWord (h word mem)
  simp only [Definition.words, List.forall_mem_cons] at read
  obtain ⟨-, relation, operands⟩ := read
  refine isEntryText_intercalate (List.forall_mem_cons.mpr ⟨?_, operands⟩)
  cases a with
  | directional d => exact relation
  | equivalence d => exact plain

/-- The axiom that some definitions make is represented by one of them. -/
lemma Axiom.definition_mem_of_ofDefinitions {strategy : PairStrategy} {id : AxiomId}
    {definitions : List Definition} {a : Axiom}
    (h : ofDefinitions strategy id definitions = .ok a) : a.definition ∈ definitions :=
  List.mem_of_head? (head?_of_ofDefinitions h)

lemma DefinitionStore.worded_of_read {gci ri : Source} {store : DefinitionStore}
    (h : (DefinitionStore.read gci ri).outcome = .ok store) (id : AxiomId) :
    ∀ d ∈ store.get id, d.Worded := by
  intro d mem
  have row : d.words ∈ (store.get id).map Definition.words := List.mem_map_of_mem mem
  rw [words_get_of_read h] at row
  rcases List.mem_append.mp (List.mem_filter.mp row).1 with concepts | roles
  · exact isWord_of_mem_rowsOf concepts
  · exact isWord_of_mem_rowsOf roles

/-! ## The loop over a module -/

namespace Extraction

/-- Holds of an extraction of some numbers that can be written line by line. -/
structure Lined (ids : List AxiomId) (extraction : Extraction) : Prop where
  pushed : extraction.renumbering.Pushed
  ids : extraction.renumbering.entries.toList.map Entry.id = ids
  texts : ∀ entry ∈ extraction.renumbering.entries.toList, IsEntryText entry.text

lemma lined_empty : empty.Lined [] :=
  ⟨⟨[], rfl⟩, rfl, by simp [empty, Renumbering.empty]⟩

section

variable {settings : Settings} {store : DefinitionStore} {ids before : List AxiomId}
  {extraction extraction' : Extraction}

lemma Lined.push (h : extraction.Lined before) {marker : String} {a : Axiom}
    (text : IsEntryText (a.text marker)) (id : AxiomId) :
    (extraction.push marker id a).Lined (before ++ [id]) := by
  refine ⟨h.pushed.add _, ?_, ?_⟩
  · simp [Extraction.push, h.ids]
  · simp only [Extraction.push, entries_add, Array.toList_push, List.mem_append,
      List.mem_singleton]
    rintro entry (mem | rfl)
    · exact h.texts entry mem
    · exact text

lemma next_eq_ok {id : AxiomId}
    (h : (next settings store extraction id).outcome = .ok extraction') :
    ∃ a, Axiom.ofDefinitions settings.pairs.value id (store.get id) = .ok a ∧
      extraction' = extraction.push settings.marker id a := by
  obtain ⟨a, made, pushed⟩ := Run.bind_outcome_eq_ok.mp h
  refine ⟨a, ?_, (Except.ok.inj pushed).symm⟩
  cases found : Axiom.ofDefinitions settings.pairs.value id (store.get id) with
  | error fault =>
    rw [found] at made
    contradiction
  | ok other =>
    rw [found] at made
    exact made

/-- **Every number adds a line.** -/
lemma Lined.next (h : extraction.Lined before) (plain : IsEntryText settings.marker)
    (worded : ∀ id, ∀ d ∈ store.get id, d.Worded) {id : AxiomId}
    (made : (next settings store extraction id).outcome = .ok extraction') :
    extraction'.Lined (before ++ [id]) := by
  obtain ⟨a, found, rfl⟩ := next_eq_ok made
  have read := worded id a.definition (Axiom.definition_mem_of_ofDefinitions found)
  exact h.push (Axiom.isEntryText_text plain read) id

lemma Lined.foldlM (h : extraction.Lined before) (plain : IsEntryText settings.marker)
    (worded : ∀ id, ∀ d ∈ store.get id, d.Worded)
    (made : (ids.foldlM (Extraction.next settings store) extraction).outcome = .ok extraction') :
    extraction'.Lined (before ++ ids) := by
  induction ids generalizing extraction before with
  | nil =>
    cases made
    simpa using h
  | cons id ids ih =>
    rw [List.foldlM_cons] at made
    obtain ⟨middle, first, made⟩ := Run.bind_outcome_eq_ok.mp made
    have rest := ih (h.next plain worded first) made
    rwa [List.append_assoc, List.singleton_append] at rest

end

/-- **An extraction from sources** has one line for each number of the module. -/
lemma lined_of_ofSources {settings : Settings} {gci ri moduleSource : Source}
    {extraction : Extraction} (plain : IsEntryText settings.marker)
    (extracted : (ofSources settings gci ri moduleSource).outcome = .ok extraction) :
    ∃ ids, (AxiomModule.read moduleSource).outcome = .ok ids ∧ extraction.Lined ids := by
  obtain ⟨store, defined, extracted⟩ := Run.bind_outcome_eq_ok.mp extracted
  obtain ⟨ids, listed, extracted⟩ := Run.bind_outcome_eq_ok.mp extracted
  obtain ⟨result, looped, extracted⟩ := Run.bind_outcome_eq_ok.mp extracted
  obtain rfl : result = extraction := Except.ok.inj extracted
  exact ⟨ids, listed, lined_empty.foldlM plain (DefinitionStore.worded_of_read defined) looped⟩

/-! ## Lines -/

namespace Lined

variable {ids : List AxiomId} {extraction : Extraction} (h : extraction.Lined ids)
include h

lemma length_entries : extraction.renumbering.entries.toList.length = ids.length := by
  rw [← h.ids, List.length_map]

/-- **The index map can be read back.** -/
lemma read_text (few : ids.length < 2 ^ 64) :
    Renumbering.read (.ofText extraction.renumbering.text) = .ok extraction.renumbering := by
  have few : extraction.renumbering.size < 2 ^ 64 := by
    rwa [size, ← Array.length_toList, h.length_entries]
  exact Readable.read_text
    ⟨h.pushed, few, fun entry mem => h.texts entry (Array.mem_toList_iff.mpr mem)⟩

/-- The places of a number are those at which the module lists it. -/
lemma placesOf (id : AxiomId) :
    extraction.renumbering.placesOf id = {k | 1 ≤ k ∧ ids[k - 1]? = some id} := by
  ext k
  rw [← h.ids]
  cases k with
  | zero => simp [zero_notMem_placesOf]
  | succ k =>
    simp [Renumbering.placesOf, entryAt?]

/-- The texts of the entries, which are the lines of the fragment. -/
lemma lines_fragment : (Source.ofText extraction.fragment).lines =
    (extraction.renumbering.entries.toList.map Entry.text).map
      fun text => .text (text ++ "\n") := by
  have written : extraction.fragment = String.join
      ((extraction.renumbering.entries.toList.map Entry.text).map (· ++ "\n")) := by
    rw [fragment, List.map_map]
    rfl
  rw [written, Source.lines_ofText_join]
  intro text mem
  obtain ⟨entry, known, rfl⟩ := List.mem_map.mp mem
  exact (h.texts entry known).oneLine

lemma lines_map : (Source.ofText extraction.renumbering.text).lines =
    (ids.zip (extraction.renumbering.entries.toList.map Entry.text)).mapIdx
      fun k row => .text s!"{k + 1} {row.1} {row.2}\n" := by
  obtain ⟨axioms, made⟩ := h.pushed
  have entries : extraction.renumbering.entries.toList = entriesFrom 0 axioms := by
    rw [made, entries_ofAxioms]
  have rows : ids.zip (extraction.renumbering.entries.toList.map Entry.text) = axioms := by
    rw [← h.ids, List.zip_map', entries]
    exact map_listed_entriesFrom 0 axioms
  rw [lines_text fun entry mem => h.texts entry (Array.mem_toList_iff.mpr mem), rows, entries,
    entriesFrom, List.mapIdx_eq_zipIdx_map, List.zipIdx_succ, List.map_map, List.map_map]
  rfl

end Lined

end Extraction

end AxiomPinpointing
