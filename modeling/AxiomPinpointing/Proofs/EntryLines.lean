import AxiomPinpointing.Proofs.BlankRuns
import AxiomPinpointing.Proofs.DefinitionStore
import AxiomPinpointing.Proofs.Stopping
import AxiomPinpointing.Renumbering.Reader

/-!
# What the reader of index maps accepts

The reader of index maps drops the blanks at the two ends of a line, takes a word off it, and then
another one; what is left is the text of an entry.  In terms of the line itself this is a matter of
where its words and its blanks are (`EntryParts`), and every line with three words or more can be
cut like that, in one way only (`short_or_entryParts`, `EntryParts.visit_eq`).

So a line is blank, or it is an entry at the next place (`EntryOn`), or it is at fault
(`LineFault`).  By induction over the lines, a source holds the entries on those of its lines that
are not blank, and otherwise the first line at fault is blamed (`read_eq_ok_iff`,
`read_eq_error_iff`).  The reader only ever pushes axioms, so that what it leaves is the
renumbering of some axioms (`Pushed`): its entries have the places from 1 on, and the table of
positions needs no attention.
-/

namespace AxiomPinpointing

open Text

/-- The axiom of an entry. -/
def Entry.listed (entry : Entry) : AxiomId × String :=
  (entry.id, entry.text)

namespace Renumbering

/-! ## Renumberings by their axioms -/

/-- The renumbering of some axioms, given by their numbers and texts, in order. -/
def ofAxioms (axioms : List (AxiomId × String)) : Renumbering :=
  axioms.foldl add empty

/-- Holds of what can be made by pushing axioms. -/
def Pushed (map : Renumbering) : Prop :=
  ∃ axioms, map = ofAxioms axioms

/-- The entries of some axioms that have a number of others before them. -/
def entriesFrom (before : Nat) (axioms : List (AxiomId × String)) : List Entry :=
  (axioms.zipIdx (before + 1)).map fun row => ⟨row.2, row.1.1, row.1.2⟩

lemma entriesFrom_cons (before : Nat) (listed : AxiomId × String)
    (axioms : List (AxiomId × String)) : entriesFrom before (listed :: axioms) =
      ⟨before + 1, listed.1, listed.2⟩ :: entriesFrom (before + 1) axioms := rfl

@[simp] lemma length_entriesFrom (before : Nat) (axioms : List (AxiomId × String)) :
    (entriesFrom before axioms).length = axioms.length := by
  rw [entriesFrom, List.length_map, List.length_zipIdx]

lemma map_listed_entriesFrom (before : Nat) (axioms : List (AxiomId × String)) :
    (entriesFrom before axioms).map Entry.listed = axioms := by
  rw [entriesFrom, List.map_map]
  exact List.zipIdx_map_fst (before + 1) axioms

lemma entries_foldl_add (axioms : List (AxiomId × String)) (map : Renumbering) :
    (axioms.foldl add map).entries.toList =
      map.entries.toList ++ entriesFrom map.size axioms := by
  induction axioms generalizing map with
  | nil => simp [entriesFrom]
  | cons listed axioms ih => simp [ih, entriesFrom_cons]

@[simp] lemma entries_ofAxioms (axioms : List (AxiomId × String)) :
    (ofAxioms axioms).entries.toList = entriesFrom 0 axioms :=
  entries_foldl_add axioms empty

lemma ofAxioms_concat (axioms : List (AxiomId × String)) (listed : AxiomId × String) :
    ofAxioms (axioms ++ [listed]) = (ofAxioms axioms).add listed := by
  rw [ofAxioms, List.foldl_append]
  rfl

lemma size_ofAxioms (axioms : List (AxiomId × String)) :
    (ofAxioms axioms).size = axioms.length := by
  rw [size, ← Array.length_toList, entries_ofAxioms, length_entriesFrom]

lemma Pushed.add {map : Renumbering} (h : map.Pushed) (listed : AxiomId × String) :
    (map.add listed).Pushed := by
  obtain ⟨axioms, rfl⟩ := h
  exact ⟨axioms ++ [listed], (ofAxioms_concat axioms listed).symm⟩

/-- A renumbering that was made by pushing is determined by its entries. -/
lemma Pushed.eq_ofAxioms {map : Renumbering} (h : map.Pushed) :
    map = ofAxioms (map.entries.toList.map Entry.listed) := by
  obtain ⟨axioms, rfl⟩ := h
  rw [entries_ofAxioms, map_listed_entriesFrom]

/-! ## The parts of a line -/

/-- Holds if a line is two words and then a text, with runs of blanks between them and around
them. -/
structure EntryParts (content place id text : String) : Prop where
  layout : ∃ before gap gap' after, IsRun before ∧ (IsRun gap ∧ gap ≠ "") ∧
    (IsRun gap' ∧ gap' ≠ "") ∧ IsRun after ∧
    content = before ++ (place ++ (gap ++ (id ++ (gap' ++ text)))) ++ after
  place : IsWord place
  id : IsWord id
  nonempty : text ≠ ""
  starts : StartsFilled text.toList
  ends : EndsFilled text.toList

section Parts

variable {content place id text : String} {number : Nat} {map : Renumbering}

/-- The parts of a line are its first two words, and the text with the others. -/
lemma EntryParts.words (h : EntryParts content place id text) :
    words content = place :: id :: words text := by
  obtain ⟨before, gap, gap', after, isBefore, ⟨isGap, apart⟩, ⟨isGap', apart'⟩, isAfter, rfl⟩ :=
    h.layout
  rw [words_append_run_end isAfter, words_run_append isBefore,
    words_cut h.place isGap fun none => absurd none apart,
    words_cut h.id isGap' fun none => absurd none apart']

/-- What becomes of a line, given what it is cut into. -/
lemma visit_of_cuts {cs placeCs rest idCs textCs : List Char} (trimmed : trim content.toList = cs)
    (nonempty : cs ≠ []) (first : takeWord cs = (placeCs, rest))
    (second : takeWord rest = (idCs, textCs)) :
    visit number content map =
      if textCs.isEmpty then .fail (.incompleteEntry number) map
      else .update map (entryOfWords map.size number placeCs idCs textCs) add := by
  rw [visit, trimmed]
  simp [nonempty, first, second]

lemma visit_of_blank (blank : words content = []) (number : Nat) (map : Renumbering) :
    visit number content map = .next map := by
  obtain ⟨before, body, after, rfl, isBefore, isAfter, starts, ends⟩ := exists_trimmed content
  rw [words_append_run_end isAfter, words_run_append isBefore] at blank
  have none : body = "" := by
    by_contra nonempty
    exact Text.words_ne_nil nonempty starts blank
  rw [visit, trim_append_append isBefore isAfter starts ends, none]
  rfl

/-- **A line is cut into its parts.** -/
lemma EntryParts.visit_eq (h : EntryParts content place id text) : visit number content map =
    .update map (entryOfWords map.size number place.toList id.toList text.toList) add := by
  obtain ⟨before, gap, gap', after, isBefore, ⟨isGap, apart⟩, ⟨isGap', apart'⟩, isAfter, rfl⟩ :=
    h.layout
  have some : text.toList ≠ [] := mt String.toList_eq_nil_iff.mp h.nonempty
  have begins : StartsFilled (place ++ (gap ++ (id ++ (gap' ++ text)))).toList := by
    rw [String.toList_append]
    exact startsFilled_of_isWord h.place _
  have behind : StartsFilled (id ++ (gap' ++ text)).toList := by
    rw [String.toList_append]
    exact startsFilled_of_isWord h.id _
  have ends : EndsFilled (place ++ (gap ++ (id ++ (gap' ++ text)))).toList := by
    simp only [String.toList_append, ← List.append_assoc]
    exact endsFilled_append some h.ends
  have first := takeWord_append h.place isGap (fun none => absurd none apart) behind
  have second := takeWord_append h.id isGap' (fun none => absurd none apart') h.starts
  rw [visit_of_cuts (trim_append_append isBefore isAfter begins ends) (by simp [some]) first second,
    if_neg (by simp [h.nonempty])]

/-- **Every line that is not blank has its parts**, or else words are missing. -/
lemma short_or_entryParts (filled : words content ≠ []) :
    ((words content).length < 3 ∧ ∀ number map,
        visit number content map = .fail (.incompleteEntry number) map) ∨
      ∃ place id text, EntryParts content place id text := by
  obtain ⟨before, body, after, rfl, isBefore, isAfter, starts, ends⟩ := exists_trimmed content
  have trimmed := trim_append_append isBefore isAfter starts ends
  rw [words_append_run_end isAfter, words_run_append isBefore] at filled ⊢
  have some : body ≠ "" := fun none => filled (none ▸ words_empty)
  obtain ⟨place, gap, rest, rfl, isPlace, isGap, apart, startsRest⟩ := exists_cut some starts
  have first := takeWord_append isPlace isGap apart startsRest
  have nonempty := mt String.toList_eq_nil_iff.mp some
  rw [words_cut isPlace isGap apart]
  by_cases one : rest = ""
  · -- one word, so that there is nothing to take the second one off
    subst one
    exact .inl ⟨by simp, fun number map => visit_of_cuts trimmed nonempty first rfl⟩
  obtain ⟨id, gap', text, rfl, isId, isGap', apart', startsText⟩ := exists_cut one startsRest
  have second := takeWord_append isId isGap' apart' startsText
  rw [words_cut isId isGap' apart']
  by_cases two : text = ""
  · subst two
    exact .inl ⟨by simp, fun number map => visit_of_cuts trimmed nonempty first second⟩
  · refine .inr ⟨place, id, text, ⟨before, gap, gap', after, isBefore, ⟨isGap, mt apart one⟩,
      ⟨isGap', mt apart' two⟩, isAfter, rfl⟩, isPlace, isId, two, startsText, ?_⟩
    simp only [String.toList_append, ← List.append_assoc] at ends
    exact endsFilled_of_append ends

lemma exists_entryParts_iff : (∃ place id text, EntryParts content place id text) ↔
    3 ≤ (words content).length := by
  constructor
  · rintro ⟨place, id, text, parts⟩
    have more := List.length_pos_of_ne_nil (words_ne_nil parts.nonempty parts.starts)
    rw [parts.words, List.length_cons, List.length_cons]
    omega
  · intro enough
    have filled : words content ≠ [] := List.ne_nil_of_length_pos (by omega)
    rcases short_or_entryParts filled with ⟨short, -⟩ | parts
    · omega
    · exact parts

end Parts

/-! ## One line -/

/-- Holds if a line is an entry at a place: the place is spelled in some way, the number as it is
printed, and the text is the rest of the line. -/
def EntryOn (line : Line) (place : Nat) (entry : Entry) : Prop :=
  ∃ content word, line = .text content ∧
    EntryParts content word (toString entry.id) entry.text ∧
    (∃ value, unsigned64? word = some value ∧ value.toNat = place) ∧ entry.place = place

/-- What can be wrong with a line that has a number of entries before it.  Of several things the
first is reported. -/
inductive LineFault (before number : Nat) : Line → Fault → Prop
  | unreadable : LineFault before number .unreadable (.unreadableLine number)
  | incomplete {line : Line} (filled : line.words ≠ []) (short : line.words.length < 3) :
      LineFault before number line (.incompleteEntry number)
  | badPlace {line : Line} {place id : String} {rest : List String}
      (split : line.words = place :: id :: rest) (more : rest ≠ [])
      (unread : unsigned64? place = none) : LineFault before number line (.badWord place number)
  | badId {line : Line} {place id : String} {rest : List String} {value : UInt64}
      (split : line.words = place :: id :: rest) (more : rest ≠ [])
      (read : unsigned64? place = some value) (unprinted : ∀ i : AxiomId, toString i ≠ id) :
      LineFault before number line (.badWord id number)
  | outOfSequence {line : Line} {place : String} {id : AxiomId} {rest : List String}
      {value : UInt64} (split : line.words = place :: toString id :: rest) (more : rest ≠ [])
      (read : unsigned64? place = some value) (other : value.toNat ≠ before + 1) :
      LineFault before number line (.outOfSequence number value.toNat)

lemma lineFault_unreadable_iff {before number : Nat} (fault : Fault) :
    LineFault before number .unreadable fault ↔ fault = .unreadableLine number := by
  constructor
  · rintro (_ | ⟨filled, -⟩ | ⟨split, -⟩ | ⟨split, -⟩ | ⟨split, -⟩)
    · rfl
    all_goals contradiction
  · rintro rfl
    exact .unreadable

section Visits

variable {number place : Nat} {content : String} {map map' : Renumbering} {entry : Entry}
  {fault : Fault}

lemma EntryOn.words_ne_nil {line : Line} (h : EntryOn line place entry) : line.words ≠ [] := by
  obtain ⟨content, word, rfl, parts, -⟩ := h
  rw [Line.words, parts.words]
  exact List.cons_ne_nil _ _

lemma EntryOn.visit_eq (h : EntryOn (.text content) (map.size + 1) entry) :
    visit number content map = .next (map.add entry.listed) := by
  obtain ⟨content, word, same, parts, ⟨value, read, turn⟩, -⟩ := h
  obtain rfl := Line.text.inj same
  have id := AxiomId.ofWord?_eq_some_iff.mpr (rfl : toString entry.id = toString entry.id)
  simp only [parts.visit_eq, entryOfWords, String.ofList_toList, read, id, turn, if_true,
    Step.update, Entry.listed]

lemma exists_entryParts_of_words {word id : String} {rest : List String}
    (split : words content = word :: id :: rest) (more : rest ≠ []) :
    ∃ text, EntryParts content word id text := by
  have enough : 3 ≤ (words content).length := by
    have := List.length_pos_of_ne_nil more
    rw [split, List.length_cons, List.length_cons]
    omega
  obtain ⟨word', id', text, parts⟩ := exists_entryParts_iff.mpr enough
  obtain ⟨rfl, behind⟩ := List.cons.inj (parts.words.symm.trans split)
  obtain ⟨rfl, -⟩ := List.cons.inj behind
  exact ⟨text, parts⟩

lemma LineFault.visit_eq (h : LineFault map.size number (.text content) fault) :
    visit number content map = .fail fault map := by
  cases h with
  | incomplete filled short =>
    rcases short_or_entryParts filled with ⟨-, fails⟩ | parts
    · exact fails number map
    · have enough := exists_entryParts_iff.mp parts
      exact absurd short (Nat.not_lt.mpr enough)
  | badPlace split more unread =>
    obtain ⟨text, parts⟩ := exists_entryParts_of_words split more
    simp only [parts.visit_eq, entryOfWords, String.ofList_toList, unread, Step.update]
  | badId split more read unprinted =>
    obtain ⟨text, parts⟩ := exists_entryParts_of_words split more
    have unread := AxiomId.ofWord?_eq_none_iff.mpr unprinted
    simp only [parts.visit_eq, entryOfWords, String.ofList_toList, read, unread, Step.update]
  | @outOfSequence _ place id rest value split more read other =>
    obtain ⟨text, parts⟩ := exists_entryParts_of_words split more
    have isId := AxiomId.ofWord?_eq_some_iff.mpr (rfl : toString id = toString id)
    simp only [parts.visit_eq, entryOfWords, String.ofList_toList, read, isId, other, if_false,
      Step.update]

/-- **A line is blank, or it is an entry, or it is at fault.** -/
lemma blank_or_entryOn_or_lineFault (before number : Nat) (content : String) :
    words content = [] ∨ (∃ entry, EntryOn (.text content) (before + 1) entry) ∨
      ∃ fault, LineFault before number (.text content) fault := by
  by_cases filled : words content = []
  case pos => exact .inl filled
  refine .inr ?_
  rcases short_or_entryParts filled with ⟨short, -⟩ | ⟨word, id, text, parts⟩
  · exact .inr ⟨_, .incomplete filled short⟩
  have more := Text.words_ne_nil parts.nonempty parts.starts
  cases read : unsigned64? word with
  | none => exact .inr ⟨_, .badPlace parts.words more read⟩
  | some value =>
    cases found : AxiomId.ofWord? id with
    | none => exact .inr ⟨_, .badId parts.words more read (AxiomId.ofWord?_eq_none_iff.mp found)⟩
    | some number =>
      obtain rfl := AxiomId.ofWord?_eq_some_iff.mp found
      by_cases turn : value.toNat = before + 1
      · exact .inl ⟨⟨_, number, text⟩, content, word, rfl, parts, ⟨value, read, turn⟩, rfl⟩
      · exact .inr ⟨_, .outOfSequence parts.words more read turn⟩

/-- Holds if a line leaves this after it: nothing new, or one more entry. -/
def Leaves (content : String) (map map' : Renumbering) : Prop :=
  (words content = [] ∧ map' = map) ∨
    ∃ entry, EntryOn (.text content) (map.size + 1) entry ∧ map' = map.add entry.listed

variable (number content map) in
/-- **What becomes of a line**, in all cases. -/
lemma visit_iff :
    (∀ map', visit number content map = .next map' ↔ Leaves content map map') ∧
      (∀ fault map', visit number content map = .fail fault map' ↔
        LineFault map.size number (.text content) fault ∧ map' = map) ∧
      ∀ map', visit number content map ≠ .stop map' := by
  refine Step.iff_of_known ?_ LineFault.visit_eq ?_
  · rintro map' (⟨blank, rfl⟩ | ⟨entry, on, rfl⟩)
    · exact visit_of_blank blank number map'
    · exact on.visit_eq
  · rcases blank_or_entryOn_or_lineFault map.size number content with blank | ⟨entry, on⟩ | faulty
    · exact .inl ⟨map, .inl ⟨blank, rfl⟩⟩
    · exact .inl ⟨_, .inr ⟨entry, on, rfl⟩⟩
    · exact .inr faulty

end Visits

/-! ## All lines -/

/-- The lines with words, and the places that the entries on them have to have. -/
def placedLines (before : Nat) (lines : List Line) : List (Line × Nat) :=
  (lines.filter (·.words ≠ [])).zipIdx (before + 1)

/-- Holds if the lines with words are entries, one after the other. -/
def EntriesOn (before : Nat) (lines : List Line) (entries : List Entry) : Prop :=
  List.Forall₂ (fun row entry => EntryOn row.1 row.2 entry) (placedLines before lines) entries

section Runs

variable {number : Nat} {content : String} {map map' : Renumbering} {lines : List Line}

lemma placedLines_cons_of_blank (blank : words content = []) (before : Nat) (lines : List Line) :
    placedLines before (.text content :: lines) = placedLines before lines := by
  rw [placedLines, List.filter_cons_of_neg (by simp [Line.words, blank]), placedLines]

lemma placedLines_cons (filled : words content ≠ []) (before : Nat) (lines : List Line) :
    placedLines before (.text content :: lines) =
      (.text content, before + 1) :: placedLines (before + 1) lines := by
  rw [placedLines, List.filter_cons_of_pos (by simp [Line.words, filled]), placedLines,
    List.zipIdx_cons]

/-- Every entry is on one of the lines, at the place that it has among the entries. -/
lemma EntriesOn.exists_entryOn {before k : Nat} {entries : List Entry} {entry : Entry}
    (h : EntriesOn before lines entries) (here : entries[k]? = some entry) :
    ∃ line ∈ lines, EntryOn line (before + 1 + k) entry := by
  obtain ⟨within, rfl⟩ := List.getElem?_eq_some_iff.mp here
  have within' : k < (placedLines before lines).length := by rwa [List.Forall₂.length_eq h]
  have on := List.Forall₂.get h within' within
  simp only [List.get_eq_getElem, placedLines, List.getElem_zipIdx] at on
  exact ⟨_, List.mem_of_mem_filter (List.getElem_mem _), on⟩

/-- What is on the lines are the entries of their axioms, with the places that these get. -/
lemma EntriesOn.entriesFrom_eq {before : Nat} {entries : List Entry}
    (h : EntriesOn before lines entries) :
    entriesFrom before (entries.map Entry.listed) = entries := by
  rw [EntriesOn, placedLines] at h
  generalize lines.filter (·.words ≠ []) = rows at h
  induction rows generalizing before entries with
  | nil =>
    cases h
    rfl
  | cons row rows ih =>
    rw [List.zipIdx_cons] at h
    obtain - | @⟨_, entry, _, entries, on, others⟩ := h
    obtain ⟨-, -, -, -, -, place⟩ : EntryOn row (before + 1) entry := on
    rw [List.map_cons, entriesFrom_cons, ih others, ← place]
    rfl

/-- **Lines are passed** if those with words are entries at the next places, and only then.  The
map that is carried along knows how many there have been. -/
lemma passes_iff : Passes visit number map lines map' ↔ .unreadable ∉ lines ∧
    ∃ entries, EntriesOn map.size lines entries ∧
      map' = (entries.map Entry.listed).foldl add map := by
  induction lines generalizing number map with
  | nil =>
    rw [passes_nil_iff]
    constructor
    · rintro rfl
      exact ⟨List.not_mem_nil, [], .nil, rfl⟩
    · rintro ⟨-, _, ⟨⟩, rfl⟩
      rfl
  | cons line lines ih =>
    cases line with
    | unreadable => simp [not_passes_unreadable]
    | text content =>
      rw [passes_text_iff]
      simp only [(visit_iff number content map).1, ih, List.mem_cons, reduceCtorEq, false_or]
      constructor
      · rintro ⟨after, ⟨blank, rfl⟩ | ⟨entry, on, rfl⟩, readable, entries, all, rfl⟩
        · refine ⟨readable, entries, ?_, rfl⟩
          rwa [EntriesOn, placedLines_cons_of_blank blank]
        · refine ⟨readable, entry :: entries, ?_, rfl⟩
          rw [size_add] at all
          rw [EntriesOn, placedLines_cons on.words_ne_nil]
          exact .cons on all
      · rintro ⟨readable, entries, all, rfl⟩
        by_cases blank : words content = []
        · rw [EntriesOn, placedLines_cons_of_blank blank] at all
          exact ⟨map, .inl ⟨blank, rfl⟩, readable, entries, all, rfl⟩
        · rw [EntriesOn, placedLines_cons blank] at all
          obtain - | ⟨on, others⟩ := all
          refine ⟨_, .inr ⟨_, on, rfl⟩, readable, _, ?_, rfl⟩
          rwa [size_add]

end Runs

section Sources

variable {source : Source} {map : Renumbering} {fault : Fault}

/-- **What the reader accepts.** -/
lemma read_eq_ok_iff : read source = .ok map ↔
    .unreadable ∉ source.lines ∧ map.Pushed ∧ EntriesOn 0 source.lines map.entries.toList := by
  have passed : read source = .ok map ↔ Passes visit 1 empty source.lines map :=
    visitLines_outcome_eq_ok_iff fun number content map => (visit_iff number content map).2.2
  rw [passed, passes_iff]
  refine and_congr_right fun _ => ⟨?_, fun ⟨pushed, all⟩ => ⟨_, all, pushed.eq_ofAxioms⟩⟩
  rintro ⟨entries, all, rfl⟩
  refine ⟨⟨_, rfl⟩, ?_⟩
  rw [← ofAxioms, entries_ofAxioms]
  exact all.entriesFrom_eq.symm ▸ all

/-- **What the reader blames.** -/
lemma read_eq_error_iff : read source = .error fault ↔
    ∃ k line entries, .unreadable ∉ source.lines.take k ∧
      EntriesOn 0 (source.lines.take k) entries ∧ source.lines[k]? = some line ∧
      LineFault entries.length (k + 1) line fault := by
  have ends_iff : ∀ {number : Nat} {map : Renumbering} {line? : Option Line},
      (∃ last, EndsAt visit number map line? ⟨last, some fault⟩) ↔
        ∃ line, line? = some line ∧ LineFault map.size number line fault :=
    exists_endsAt_fault_iff lineFault_unreadable_iff fun content =>
      (visit_iff _ content _).2.1
  rw [read, Source.read, visitLines_outcome_eq_error_iff]
  constructor
  · rintro ⟨k, map, last, passes, ends⟩
    obtain ⟨readable, entries, all, rfl⟩ := passes_iff.mp passes
    obtain ⟨line, here, faulty⟩ := ends_iff.mp ⟨last, ends⟩
    rw [← ofAxioms, size_ofAxioms, List.length_map, Nat.add_comm] at faulty
    exact ⟨k, line, entries, readable, all, here, faulty⟩
  · rintro ⟨k, line, entries, readable, all, here, faulty⟩
    rw [← List.length_map Entry.listed, ← size_ofAxioms, Nat.add_comm] at faulty
    obtain ⟨last, ends⟩ := ends_iff.mpr ⟨line, here, faulty⟩
    exact ⟨k, _, last, passes_iff.mpr ⟨readable, entries, all, rfl⟩, ends⟩

end Sources

/-- **What the reader of index maps accepts, and what it blames.**  A source holds a renumbering
exactly if all of it can be read, and its lines with words are the entries: on the i-th of them the
place i is spelled, which the entry has as its own, and then the number and the text of the entry.
Otherwise the first other line is at fault, and of the things that are wrong with it the first is
reported: that a word is missing, then the place, then the number, then the turn.  A line has the
three parts of an entry exactly if it has three words; the first two parts are its first two words,
and the words of the third are the others. -/
theorem read_entry_lines :
    (∀ source map, read source = .ok map ↔
      .unreadable ∉ source.lines ∧ map.Pushed ∧ EntriesOn 0 source.lines map.entries.toList) ∧
    (∀ source fault, read source = .error fault ↔
      ∃ k line entries, .unreadable ∉ source.lines.take k ∧
        EntriesOn 0 (source.lines.take k) entries ∧ source.lines[k]? = some line ∧
        LineFault entries.length (k + 1) line fault) ∧
    ∀ content, ((∃ place id text, EntryParts content place id text) ↔
        3 ≤ (words content).length) ∧
      ∀ place id text, EntryParts content place id text →
        words content = place :: id :: words text :=
  ⟨fun _ _ => read_eq_ok_iff, fun _ _ => read_eq_error_iff, fun _ =>
    ⟨exists_entryParts_iff, fun _ _ _ parts => parts.words⟩⟩

/-- Blanks around the parts of a line are no parts of it, and those inside the text are.  On the
third line a word is missing, and that its place is no number does not matter then. -/
theorem read_entry_lines_incomplete :
    words "1 40  a  b \n" = "1" :: "40" :: words "a  b" ∧
      (∃ map, read (.ofText "1 40  a  b \n") = .ok map ∧
        map.entries = #[⟨1, ⟨40⟩, "a  b"⟩]) ∧
      read (.ofText "1 40  a  b \n\nx 7\n") = .error (.incompleteEntry 3) := by
  obtain ⟨accepts, blames, layout⟩ := read_entry_lines
  have parts : EntryParts "1 40  a  b \n" "1" "40" "a  b" := by
    refine ⟨⟨"", " ", "  ", " \n", ?_, ?_, ?_, ?_, rfl⟩, isWord_iff.mpr rfl, isWord_iff.mpr rfl,
      ?_, ?_, ?_⟩
    all_goals decide
  have on : EntryOn (.text "1 40  a  b \n") 1 ⟨1, ⟨40⟩, "a  b"⟩ :=
    ⟨_, "1", rfl, parts, ⟨1, rfl, rfl⟩, rfl⟩
  refine ⟨(layout _).2 _ _ _ parts, ⟨ofAxioms [(⟨40⟩, "a  b")],
    (accepts _ _).mpr ⟨?_, ⟨_, rfl⟩, .cons on .nil⟩, rfl⟩, ?_⟩
  · decide
  · refine (blames _ _).mpr ⟨2, .text "x 7\n", _, ?_, .cons on .nil, rfl, .incomplete ?_ ?_⟩
    all_goals decide

end Renumbering

end AxiomPinpointing
