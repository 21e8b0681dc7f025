import AxiomPinpointing.AxiomModule
import AxiomPinpointing.Proofs.DefinitionStore
import AxiomPinpointing.Proofs.Stopping

/-!
# What a module lists

A module is read off the last line of its source that has words.  The reader passes every line that
can be read, and keeps the last one with words (`LastLine.Keeps`); a line that cannot be read ends
the reading, whatever was kept.  Only then the words of the line are looked at: they are numbers,
spelled as they are printed, and after them the terminator, or else the row is at fault
(`RowGives`).  A source without words is the empty module.

So no other line matters for the outcome, except that it has to be readable; in the log there is a
message for each (`last_line_counts`).
-/

namespace AxiomPinpointing.AxiomModule

open Text

/-- The words of a module: those of the last row, without the terminator. -/
def wordsOf (source : Source) : List String :=
  (source.rows.getLast?.getD []).dropLast

/-! ## Rows -/

/-- What a row of words comes to, if it is on the line with the given number. -/
inductive RowGives (number : Nat) : List String → Except Fault (List AxiomId) → Prop
  /-- Numbers as they are printed, and then the terminator. -/
  | listed (ids : List AxiomId) : RowGives number (ids.map toString ++ ["0"]) (.ok ids)
  /-- The last word is another one, whatever stands in front of it. -/
  | missingTerminator {front : List String} {last : String} (other : last ≠ "0") :
      RowGives number (front ++ [last]) (.error (.missingTerminator number))
  /-- A word that no number is printed as; the words in front of it are numbers. -/
  | badWord {ids : List AxiomId} {word : String} {back : List String}
      (unprinted : ∀ id : AxiomId, toString id ≠ word) :
      RowGives number (ids.map toString ++ word :: back ++ ["0"]) (.error (.badWord word number))

section Rows

variable {number : Nat} {word : String} {ws : List String} {ids : List AxiomId} {line : String}

lemma idOfWord_eq_ok_iff {id : AxiomId} : idOfWord number word = .ok id ↔ word = toString id := by
  rw [idOfWord, ← AxiomId.ofWord?_eq_some_iff]
  split <;> simp [*]

lemma idOfWord_eq_error_iff {fault : Fault} : idOfWord number word = .error fault ↔
    fault = .badWord word number ∧ ∀ id : AxiomId, toString id ≠ word := by
  rw [idOfWord, ← AxiomId.ofWord?_eq_none_iff]
  split <;> simp [*, eq_comm]

/-- Words are read as numbers exactly if they are what the numbers are printed as. -/
lemma mapM_idOfWord_eq_ok_iff : ws.mapM (idOfWord number) = .ok ids ↔ ws = ids.map toString := by
  rw [← List.forall₂_eq_eq_eq, List.forall₂_map_right_iff, mapM_eq_ok_iff]
  simp only [idOfWord_eq_ok_iff]

/-- **The leftmost word that is no number** is the fault. -/
lemma mapM_idOfWord_eq_error_iff {fault : Fault} : ws.mapM (idOfWord number) = .error fault ↔
    ∃ (ids : List AxiomId) (word : String) (back : List String),
      ws = ids.map toString ++ word :: back ∧ (∀ id : AxiomId, toString id ≠ word) ∧
        fault = .badWord word number := by
  constructor
  · intro h
    obtain ⟨k, word, here, before, fails⟩ := mapM_eq_error_iff.mp h
    obtain ⟨ids, read⟩ := exists_mapM_eq_ok_iff.mpr before
    obtain ⟨rfl, unprinted⟩ := idOfWord_eq_error_iff.mp fails
    obtain ⟨within, rfl⟩ := List.getElem?_eq_some_iff.mp here
    refine ⟨ids, ws[k], ws.drop (k + 1), ?_, unprinted, rfl⟩
    rw [← mapM_idOfWord_eq_ok_iff.mp read, ← List.drop_eq_getElem_cons within,
      List.take_append_drop]
  · rintro ⟨ids, word, back, rfl, unprinted, rfl⟩
    refine mapM_eq_error_iff.mpr ⟨ids.length, word, by simp, ?_, ?_⟩
    · rw [List.take_left' (by simp), ← exists_mapM_eq_ok_iff]
      exact ⟨ids, mapM_idOfWord_eq_ok_iff.mpr rfl⟩
    · exact idOfWord_eq_error_iff.mpr ⟨rfl, unprinted⟩

/-- **What is read off a line** depends on its words only. -/
lemma ofLine_eq_iff (filled : words line ≠ []) {outcome : Except Fault (List AxiomId)} :
    ofLine number line = outcome ↔ RowGives number (words line) outcome := by
  obtain none | ⟨front, last, split⟩ := List.eq_nil_or_concat (words line)
  · contradiction
  · rw [List.concat_eq_append] at split
    simp only [ofLine, split, List.getLast?_concat, List.dropLast_concat, Option.some_inj]
    constructor
    · rintro rfl
      split_ifs with ended
      · rw [ended]
        cases read : front.mapM (idOfWord number) with
        | ok ids =>
          rw [mapM_idOfWord_eq_ok_iff.mp read]
          exact .listed ids
        | error fault =>
          obtain ⟨ids, word, back, rfl, unprinted, rfl⟩ := mapM_idOfWord_eq_error_iff.mp read
          exact .badWord unprinted
      · exact .missingTerminator ended
    · generalize row : front ++ [last] = ws
      intro gives
      cases gives with
      | listed ids =>
        obtain ⟨rfl, rfl⟩ := List.append_singleton_inj.mp row
        exact (if_pos rfl).trans (mapM_idOfWord_eq_ok_iff.mpr rfl)
      | missingTerminator other =>
        obtain ⟨rfl, rfl⟩ := List.append_singleton_inj.mp row
        exact if_neg other
      | badWord unprinted =>
        obtain ⟨rfl, rfl⟩ := List.append_singleton_inj.mp row
        exact (if_pos rfl).trans (mapM_idOfWord_eq_error_iff.mpr ⟨_, _, _, rfl, unprinted, rfl⟩)

end Rows

/-! ## The line that is kept -/

/-- Of some lines with words, each is replaced by the next, and there is a warning about it, which
has the numbers of the two lines. -/
def replacements (filled : List (Line × Nat)) : List Message :=
  (filled.zip filled.tail).map fun pair =>
    ⟨.warn, .parse, s!"Module line {pair.1.2} replaced by line {pair.2.2}"⟩

/-- The message about an empty module, if it is one. -/
def noteOnEmpty : Except Fault (List AxiomId) → List Message
  | .ok [] => [⟨.warn, .parse, "Empty module"⟩]
  | _ => []

lemma replacements_concat (filled : List (Line × Nat)) (earlier later : Line × Nat) :
    replacements (filled ++ [earlier, later]) =
      replacements (filled ++ [earlier]) ++ [replaced earlier.2 later.2] := by
  induction filled with
  | nil => rfl
  | cons first rest ih =>
    cases rest with
    | nil => rfl
    | cons second rest => exact congrArg (List.cons (replaced first.2 second.2)) ih

/-- Holds of what is kept after some lines with words: the last of them, and the messages about the
others. -/
structure LastLine.Keeps (filled : List (Line × Nat)) (last : LastLine) : Prop where
  line : last.line.map (fun numbered => (Line.text numbered.2, numbered.1)) = filled.getLast?
  log : last.log.toList = replacements filled

namespace LastLine.Keeps

variable {filled : List (Line × Nat)} {last : LastLine}

lemma start : Keeps [] {} where
  line := rfl
  log := rfl

/-- **A line with words takes the place** of the one that was kept. -/
lemma visit_filled (h : last.Keeps filled) {content : String} (words : words content ≠ [])
    (number : Nat) : ∃ last', visit number content last = .next last' ∧
      last'.Keeps (filled ++ [(.text content, number)]) := by
  rw [visit, if_neg (mt isBlankLine_iff.mp words)]
  cases kept : last.line with
  | none =>
    have none : filled = [] := by simpa [kept] using h.line.symm
    refine ⟨_, rfl, ?_, ?_⟩
    · exact List.getLast?_concat.symm
    · rw [h.log, none]
      rfl
  | some earlier =>
    have found := h.line
    rw [kept, Option.map_some, eq_comm, List.getLast?_eq_some_iff] at found
    obtain ⟨front, split⟩ := found
    refine ⟨_, rfl, ?_, ?_⟩
    · exact List.getLast?_concat.symm
    · rw [Array.toList_push, h.log, split, List.append_assoc, List.singleton_append,
        replacements_concat]

/-- **Lines that can be read are passed**, and the last one with words is kept. -/
lemma passes (h : last.Keeps filled) {lines : List Line} (readable : .unreadable ∉ lines)
    (number : Nat) : ∃ last', Passes visit number last lines last' ∧
      last'.Keeps (filled ++ filledLines number lines) := by
  induction lines generalizing number filled last with
  | nil =>
    refine ⟨last, .nil number last, ?_⟩
    rwa [filledLines, List.zipIdx_nil, List.filter_nil, List.append_nil]
  | cons line rest ih =>
    obtain ⟨this, others⟩ := List.ne_and_not_mem_of_not_mem_cons readable
    cases line with
    | unreadable => contradiction
    | text content =>
      by_cases blank : words content = []
      · obtain ⟨last', passes, keeps⟩ := ih h others (number + 1)
        rw [← filledLines_cons_of_blank blank] at keeps
        exact ⟨last', .cons (if_pos (isBlankLine_iff.mpr blank)) passes, keeps⟩
      · obtain ⟨next, goesOn, replaces⟩ := h.visit_filled blank number
        obtain ⟨last', passes, keeps⟩ := ih replaces others (number + 1)
        rw [List.append_assoc, List.singleton_append, ← filledLines_cons blank] at keeps
        exact ⟨last', .cons goesOn passes, keeps⟩

/-- Nothing is kept where no line has words. -/
lemma ids_of_nil (h : last.Keeps []) : last.ids = .ok [] := by
  have none : last.line = none := by simpa using h.line
  rw [ids, none]

/-- What is kept is read as a row. -/
lemma ids_eq_iff (h : last.Keeps filled) {line : Line} {number : Nat}
    (kept : filled.getLast? = some (line, number)) (words : line.words ≠ [])
    {outcome : Except Fault (List AxiomId)} :
    last.ids = outcome ↔ RowGives number line.words outcome := by
  have found := h.line
  rw [kept, Option.map_eq_some_iff] at found
  obtain ⟨numbered, own, same⟩ := found
  obtain ⟨rfl, rfl⟩ := Prod.mk.inj same
  rw [ids, own]
  exact ofLine_eq_iff words

end LastLine.Keeps

/-! ## Reading -/

section Reading

variable {source : Source}

/-- A source that can be read is read off what is kept of it. -/
lemma read_of_readable (readable : .unreadable ∉ source.lines) :
    ∃ last : LastLine, last.Keeps (filledLines 1 source.lines) ∧
      read source = ⟨last.ids, last.log.toList ++ noteOnEmpty last.ids⟩ := by
  obtain ⟨last, passes, keeps⟩ := LastLine.Keeps.start.passes readable 1
  have reading : source.read visit {} = ⟨last, none⟩ := passes.visitLines_all
  refine ⟨last, keeps, ?_⟩
  rw [read, reading, Run.bind_of_ok (a := ()) rfl, Run.bind_of_ok (a := last) rfl]
  cases last.ids with
  | error fault => rfl
  | ok ids => cases ids <;> rfl

lemma read_of_blank (readable : .unreadable ∉ source.lines)
    (blank : filledLines 1 source.lines = []) : (read source).outcome = .ok [] := by
  obtain ⟨last, keeps, reading⟩ := read_of_readable readable
  rw [blank] at keeps
  rw [reading, keeps.ids_of_nil]

/-- **The last row decides**, if the source can be read. -/
lemma read_outcome_eq_iff (readable : .unreadable ∉ source.lines) {line : Line} {number : Nat}
    (kept : (filledLines 1 source.lines).getLast? = some (line, number))
    (outcome : Except Fault (List AxiomId)) :
    (read source).outcome = outcome ↔ RowGives number line.words outcome := by
  obtain ⟨last, keeps, reading⟩ := read_of_readable readable
  rw [reading]
  exact keeps.ids_eq_iff kept (words_ne_nil_of_mem_filledLines (List.mem_of_getLast? kept))

/-- **Other lines may change**, as long as those behind stay blank. -/
lemma read_outcome_congr {source' : Source} {front front' back back' : List Line} {line : Line}
    (lines : source.lines = front ++ line :: back)
    (lines' : source'.lines = front' ++ line :: back') (readable : .unreadable ∉ source.lines)
    (readable' : .unreadable ∉ source'.lines) (place : front'.length = front.length)
    (filled : line.words ≠ []) (blank : ∀ other ∈ back ++ back', other.words = []) :
    (read source').outcome = (read source).outcome := by
  obtain ⟨behind, behind'⟩ := List.forall_mem_append.mp blank
  have kept := getLast?_filledLines 1 front filled behind
  have kept' := getLast?_filledLines 1 front' filled behind'
  -- both sources keep the same line under the same number
  rw [← lines] at kept
  rw [← lines', place] at kept'
  rw [read_outcome_eq_iff readable' kept', ← read_outcome_eq_iff readable kept]

/-- **What is written on one line is read back.** -/
lemma read_row (ids : List AxiomId) :
    (read (.ofText (row (ids.map toString ++ ["0"])))).outcome = .ok ids := by
  have isWord : ∀ word ∈ ids.map toString ++ ["0"], IsWord word := by
    rw [List.forall_mem_append, List.forall_mem_singleton, List.forall_mem_map]
    exact ⟨fun id _ => isWord_toString_nat id.value.toNat, isWord_toString_nat 0⟩
  have lines := Source.lines_ofText_row isWord
  have words : (Line.text (row (ids.map toString ++ ["0"]))).words = ids.map toString ++ ["0"] :=
    words_row isWord
  have filled : (Line.text (row (ids.map toString ++ ["0"]))).words ≠ [] := by simp [words]
  have kept := getLast?_filledLines 1 [] filled (List.forall_mem_nil _)
  refine (read_outcome_eq_iff (by simp [lines]) (by rwa [lines]) _).mpr ?_
  rw [words]
  exact .listed ids

/-- **A line that cannot be read ends the reading**, with a log about the lines before. -/
lemma read_of_unreadable {front back : List Line}
    (lines : source.lines = front ++ .unreadable :: back) (readable : .unreadable ∉ front) :
    read source = ⟨.error (.unreadableLine (front.length + 1)),
      replacements (filledLines 1 front)⟩ := by
  obtain ⟨last, passes, keeps⟩ := LastLine.Keeps.start.passes readable 1
  have reading : source.read visit {} = ⟨last, some (.unreadableLine (1 + front.length))⟩ := by
    rw [Source.read, lines, passes.visitLines_append]
    rfl
  rw [read, reading, Nat.add_comm, ← List.nil_append (filledLines 1 front), ← keeps.log]
  exact congrArg _ (List.append_nil _)

/-- **A module is its last row**, word for word. -/
lemma words_of_read {ids : List AxiomId} (h : (read source).outcome = .ok ids) :
    ids.map toString = wordsOf source := by
  by_cases readable : .unreadable ∈ source.lines
  · obtain ⟨front, back, lines, before⟩ := List.eq_append_cons_of_mem readable
    rw [read_of_unreadable lines before] at h
    contradiction
  · rw [wordsOf, Source.rows, ← map_words_filledLines 1, List.getLast?_map]
    cases kept : (filledLines 1 source.lines).getLast? with
    | none =>
      rw [read_of_blank readable (List.getLast?_eq_none_iff.mp kept)] at h
      rw [← Except.ok.inj h]
      rfl
    | some row =>
      have gives := (read_outcome_eq_iff readable kept _).mp h
      rw [Option.map_some, Option.getD_some]
      generalize row.1.words = ws at gives
      cases gives
      exact List.dropLast_concat.symm

end Reading

/-- **Only the last line with words counts.**  A source that can be read comes to what the words of
that line come to, or to the empty module if there is no such line; the log says of each line with
words that the next one replaced it, and then that the module is empty, if it is.  Two sources with
the same line at the same place, and blank lines behind it, have the same outcome, whatever the
lines in front of it are.  A line that cannot be read is the fault whatever comes before it.  And a
module that was written on one line is read back. -/
theorem last_line_counts :
    (∀ source : Source, .unreadable ∉ source.lines →
      (filledLines 1 source.lines = [] → (read source).outcome = .ok []) ∧
      (∀ line number, (filledLines 1 source.lines).getLast? = some (line, number) →
        ∀ outcome, (read source).outcome = outcome ↔ RowGives number line.words outcome) ∧
      (read source).log =
        replacements (filledLines 1 source.lines) ++ noteOnEmpty (read source).outcome) ∧
    (∀ (source source' : Source) (front front' : List Line) (line : Line) (back back' : List Line),
      source.lines = front ++ line :: back → source'.lines = front' ++ line :: back' →
      .unreadable ∉ source.lines → .unreadable ∉ source'.lines →
      front'.length = front.length → line.words ≠ [] →
      (∀ other ∈ back ++ back', other.words = []) →
      (read source').outcome = (read source).outcome) ∧
    (∀ (source : Source) (front back : List Line),
      source.lines = front ++ .unreadable :: back → .unreadable ∉ front →
      (read source).outcome = .error (.unreadableLine (front.length + 1)) ∧
        (read source).log = replacements (filledLines 1 front)) ∧
    ∀ ids : List AxiomId,
      (read (.ofText (row (ids.map toString ++ ["0"])))).outcome = .ok ids := by
  refine ⟨fun source readable => ⟨read_of_blank readable, fun line number kept =>
    read_outcome_eq_iff readable kept, ?_⟩, ?_, fun source front back lines readable => ?_,
    read_row⟩
  · obtain ⟨last, keeps, reading⟩ := read_of_readable readable
    rw [reading, ← keeps.log]
  · intro source source' front front' line back back' lines lines'
    exact read_outcome_congr lines lines'
  · rw [read_of_unreadable lines readable]
    exact ⟨rfl, rfl⟩

/-- Three rows, of which the first two are no modules; then the last of them as the third row of
another source; then bytes that are no text behind a module; and a source that is blank. -/
theorem last_line_counts_on_third :
    (read (.ofText "x y\n\n07 0\n5 5 0 0\n \n")).outcome = .ok [⟨5⟩, ⟨5⟩, ⟨0⟩] ∧
      (read (.ofText "x y\n\n07 0\n5 5 0 0\n \n")).log =
        [⟨.warn, .parse, "Module line 1 replaced by line 3"⟩,
          ⟨.warn, .parse, "Module line 3 replaced by line 4"⟩] ∧
      (read (.ofText "6\n \n\n5 5 0 0\n")).outcome =
        (read (.ofText "x y\n\n07 0\n5 5 0 0\n \n")).outcome ∧
      (read ⟨Text.encodeUtf8 "1 0\n" ++ [0xFF], .complete⟩).outcome = .error (.unreadableLine 2) ∧
      (read (.ofText " \n\n")).outcome = .ok [] ∧
      (read (.ofText " \n\n")).log = [⟨.warn, .parse, "Empty module"⟩] := by
  have lines : (Source.ofText "x y\n\n07 0\n5 5 0 0\n \n").lines = [.text "x y\n", .text "\n",
      .text "07 0\n"] ++ .text "5 5 0 0\n" :: [.text " \n"] := rfl
  have lines' : (Source.ofText "6\n \n\n5 5 0 0\n").lines = [.text "6\n", .text " \n",
      .text "\n"] ++ .text "5 5 0 0\n" :: [] := rfl
  have broken : (Source.mk (Text.encodeUtf8 "1 0\n" ++ [0xFF]) .complete).lines =
      [.text "1 0\n"] ++ .unreadable :: [] := rfl
  have blank : (Source.ofText " \n\n").lines = [.text " \n", .text "\n"] := rfl
  obtain ⟨readable, sameLast, unreadable, -⟩ := last_line_counts
  obtain ⟨-, gives, log⟩ := readable (.ofText "x y\n\n07 0\n5 5 0 0\n \n") (by simp [lines])
  obtain ⟨empty, -, note⟩ := readable (.ofText " \n\n") (by simp [blank])
  have outcome := (gives (.text "5 5 0 0\n") 4 (by rw [lines]; rfl) (.ok [⟨5⟩, ⟨5⟩, ⟨0⟩])).mpr
    (.listed [⟨5⟩, ⟨5⟩, ⟨0⟩])
  have none := empty (by rw [blank]; rfl)
  refine ⟨outcome, ?_, ?_, ?_, none, ?_⟩
  · rw [log, outcome, lines]
    rfl
  · refine sameLast _ _ _ _ _ _ _ lines lines' (by simp [lines]) (by simp [lines']) rfl ?_ ?_
    · decide
    · decide
  · exact (unreadable _ _ _ broken (by simp)).1
  · rw [note, none, blank]
    rfl

end AxiomPinpointing.AxiomModule
