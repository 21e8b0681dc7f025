import AxiomPinpointing.Proofs.LiteralLine
import AxiomPinpointing.Proofs.Reencoding
import AxiomPinpointing.Proofs.Stopping

/-!
# The two layouts of assumptions

In a column the first word of every row is an assumption, and the first line at fault decides.  In a
row, the first line that is not blank decides, and nothing behind it is seen; of its words the last
is judged before the others.  Both are said here line by line (`ColumnFault`) and word by word
(`RowBlames`), without the readers.

What is written in one layout and read in it comes back, and what two sources hold in two layouts
are the same assumptions if they are the same list.  So the layout makes no difference to an
encoding, but that the warning about missing assumptions names it.
-/

namespace AxiomPinpointing

open Text Literal

/-- Holds of the lines of text without words. -/
def Line.IsBlank (line : Line) : Prop :=
  line ≠ .unreadable ∧ line.words = []

namespace Assumptions

/-! ## One word -/

/-- What is wrong with a word that should be an assumption. -/
inductive WordBlames (line : Nat) (word : String) : Fault → Prop
  | badWord (unread : signed64? word = none) : WordBlames line word (.badWord word line)
  | misplaced (isZero : IsZero word) : WordBlames line word (.misplacedTerminator line)

lemma ofWord_of_isZero {word : String} (h : IsZero word) (line : Nat) :
    ofWord line word = .error (.misplacedTerminator line) := by
  rw [ofWord, Literal.ofWord_of_isZero h]
  rfl

lemma ofWord_of_spelledBy {word : String} {l : Literal} (h : Literal.SpelledBy word l)
    (line : Nat) : ofWord line word = .ok l := by
  rw [ofWord, h.ofWord]
  exact if_neg h.proper

lemma WordBlames.ofWord {line : Nat} {word : String} {fault : Fault}
    (h : WordBlames line word fault) : ofWord line word = .error fault := by
  cases h with
  | badWord unread =>
    rw [Assumptions.ofWord, ofWord_of_none unread]
    rfl
  | misplaced isZero => exact ofWord_of_isZero isZero line

lemma ofWord_iff (line : Nat) (word : String) :
    (∀ l, ofWord line word = .ok l ↔ Literal.SpelledBy word l) ∧
      ∀ fault, ofWord line word = .error fault ↔ WordBlames line word fault := by
  refine outcome_iff (fun spelled => ofWord_of_spelledBy spelled line) WordBlames.ofWord ?_
  rcases word_cases word with unread | zero | literal
  · exact .inr ⟨_, .badWord unread⟩
  · exact .inr ⟨_, .misplaced zero⟩
  · exact .inl literal

lemma ofWord_eq_ok_iff {line : Nat} {word : String} {l : Literal} :
    ofWord line word = .ok l ↔ Literal.SpelledBy word l :=
  (ofWord_iff line word).1 l

lemma ofWord_eq_error_iff {line : Nat} {word : String} {fault : Fault} :
    ofWord line word = .error fault ↔ WordBlames line word fault :=
  (ofWord_iff line word).2 fault

/-! ## The column -/

/-- What can be wrong with a line of a column. -/
inductive ColumnFault (number : Nat) : Line → Fault → Prop
  | unreadable : ColumnFault number .unreadable (.unreadableLine number)
  | firstWord {line : Line} {word : String} {rest : List String} {fault : Fault}
      (words : line.words = word :: rest) (blamed : WordBlames number word fault) :
      ColumnFault number line fault

/-- Holds if the first word of a row is an assumption. -/
def Begins (ws : List String) (l : Literal) : Prop :=
  ∃ word rest, ws = word :: rest ∧ Literal.SpelledBy word l

section Column

variable {number : Nat} {content : String} {read read' : Array Literal} {lines : List Line}

lemma visitColumn_of_blank (blank : words content = []) :
    visitColumn number content read = .next read := by
  rw [visitColumn, blank]

lemma visitColumn_of_words {word : String} {rest : List String}
    (filled : words content = word :: rest) :
    visitColumn number content read = .update read (ofWord number word) Array.push := by
  rw [visitColumn, filled]

/-- A line is either at fault or not; the reader goes on behind the ones that are not. -/
lemma visitColumn_eq_next_iff : visitColumn number content read = .next read' ↔
    (words content = [] ∧ read' = read) ∨
      ∃ l, Begins (words content) l ∧ read' = read.push l := by
  cases filled : words content with
  | nil => simp [visitColumn_of_blank filled, Begins, eq_comm]
  | cons word rest =>
    rw [visitColumn_of_words filled, Step.update_eq_next_iff]
    simp [ofWord_eq_ok_iff, Begins]

lemma visitColumn_eq_fail_iff {fault : Fault} :
    visitColumn number content read = .fail fault read' ↔
      ColumnFault number (.text content) fault ∧ read' = read := by
  cases filled : words content with
  | nil =>
    rw [visitColumn_of_blank filled]
    constructor
    · intro h
      contradiction
    · rintro ⟨_ | ⟨first, -⟩, -⟩
      exact absurd (first.symm.trans filled) (List.cons_ne_nil _ _)
  | cons word rest =>
    rw [visitColumn_of_words filled, Step.update_eq_fail_iff, ofWord_eq_error_iff]
    refine and_congr_left fun _ => ⟨.firstWord filled, ?_⟩
    rintro (_ | ⟨first, blamed⟩)
    rwa [(List.cons.inj (filled.symm.trans first)).1]

lemma visitColumn_ne_stop : visitColumn number content read ≠ .stop read' := by
  cases filled : words content with
  | nil => simp [visitColumn_of_blank filled]
  | cons word rest =>
    rw [visitColumn_of_words filled]
    exact Step.update_ne_stop

lemma WordBlames.not_spelledBy {word : String} {fault : Fault} (h : WordBlames number word fault)
    (l : Literal) : ¬ Literal.SpelledBy word l := by
  rintro ⟨value, proper⟩
  cases h with
  | badWord unread =>
    rw [unread] at value
    contradiction
  | misplaced isZero =>
    have zero : l.value = 0 := Option.some.inj (value.symm.trans isZero)
    exact proper (congrArg Literal.mk zero)

/-- What is passed holds the assumptions that were pushed, and nothing of it is at fault. -/
lemma begins_of_passes (h : Passes visitColumn number read lines read') :
    (∀ line ∈ lines, ∀ number fault, ¬ ColumnFault number line fault) ∧
      ∃ ls, List.Forall₂ Begins (rowsOf lines) ls ∧ read' = read ++ ls.toArray := by
  induction h with
  | nil => exact ⟨by simp, [], .nil, by simp⟩
  | @cons _ content _ _ _ _ goesOn _ ih =>
    obtain ⟨faultless, ls, begins, rfl⟩ := ih
    rw [List.forall_mem_cons]
    rcases visitColumn_eq_next_iff.mp goesOn with ⟨blank, rfl⟩ | ⟨l, first, rfl⟩
    · refine ⟨⟨fun number fault faulty => ?_, faultless⟩, ls, ?_, rfl⟩
      · obtain _ | ⟨first, -⟩ := faulty
        exact List.cons_ne_nil _ _ (first.symm.trans blank)
      · rwa [rowsOf_cons_of_blank blank]
    · obtain ⟨word, rest, filled, spelled⟩ := first
      refine ⟨⟨fun number fault faulty => ?_, faultless⟩, l :: ls, ?_, by simp⟩
      · obtain _ | ⟨first, blamed⟩ := faulty
        obtain ⟨rfl, -⟩ := List.cons.inj (filled.symm.trans first)
        exact blamed.not_spelledBy l spelled
      · rw [rowsOf_cons (filled ▸ List.cons_ne_nil word rest)]
        exact .cons ⟨word, rest, filled, spelled⟩ begins

/-- Rows that begin with assumptions are passed, and so are blank lines. -/
lemma passes_of_begins (readable : .unreadable ∉ lines) {ls : List Literal}
    (begins : List.Forall₂ Begins (rowsOf lines) ls) (number : Nat) (read : Array Literal) :
    Passes visitColumn number read lines (read ++ ls.toArray) := by
  induction lines generalizing ls number read with
  | nil =>
    cases begins
    simpa using .nil number read
  | cons line lines ih =>
    obtain ⟨first, others⟩ := not_or.mp (mt List.mem_cons.mpr readable)
    cases line with
    | unreadable => contradiction
    | text content =>
      by_cases blank : words content = []
      · rw [rowsOf_cons_of_blank blank] at begins
        exact .cons (visitColumn_of_blank blank) (ih others begins _ _)
      · rw [rowsOf_cons blank] at begins
        obtain ⟨l, rest, begun, behind, rfl⟩ := List.forall₂_cons_left_iff.mp begins
        have next := ih others behind (number + 1) (read.push l)
        refine .cons (visitColumn_eq_next_iff.mpr (.inr ⟨l, begun, rfl⟩)) ?_
        simpa using next

/-- Lines that are not at fault are passed. -/
lemma exists_passes_column (h : ∀ line ∈ lines, ∀ number fault, ¬ ColumnFault number line fault)
    (number : Nat) (read : Array Literal) :
    ∃ read', Passes visitColumn number read lines read' := by
  refine exists_passes_of_forall_next (fun line mem => ?_) number read
  cases line with
  | unreadable => exact absurd .unreadable (h _ mem 0 _)
  | text content =>
    refine ⟨content, rfl, fun number read => ?_⟩
    cases visited : visitColumn number content read with
    | next read' => exact ⟨read', rfl⟩
    | stop => exact absurd visited visitColumn_ne_stop
    | fail fault =>
      exact absurd (visitColumn_eq_fail_iff.mp visited).1 (h _ mem number fault)

lemma columnFault_unreadable_iff (fault : Fault) :
    ColumnFault number .unreadable fault ↔ fault = .unreadableLine number := by
  constructor
  · rintro (_ | ⟨filled, -⟩)
    · rfl
    · contradiction
  · rintro rfl
    exact .unreadable

end Column

lemma read_outcome (layout : AssumptionLayout) (source : Source) :
    (read layout source).outcome =
      (source.read (visit layout) #[]).outcome.map Array.toList := by
  rw [read, Run.bind_outcome]
  show (source.read (visit layout) #[]).outcome >>= _ = _
  cases (source.read (visit layout) #[]).outcome <;> rfl

/-- **What a column holds**: the first words of its rows. -/
lemma read_column_eq_ok_iff {source : Source} {ls : List Literal} :
    (read .column source).outcome = .ok ls ↔
      .unreadable ∉ source.lines ∧ List.Forall₂ Begins source.rows ls := by
  have passes_iff : ∀ read : Array Literal, (source.read visitColumn #[]).outcome = .ok read ↔
      Passes visitColumn 1 #[] source.lines read := fun read =>
    visitLines_outcome_eq_ok_iff fun _ _ _ _ => visitColumn_ne_stop
  rw [read_outcome, map_eq_ok]
  simp only [visit, passes_iff]
  constructor
  · rintro ⟨read, passes, rfl⟩
    obtain ⟨faultless, ls, begins, rfl⟩ := begins_of_passes passes
    refine ⟨fun unreadable => faultless _ unreadable 0 _ .unreadable, ?_⟩
    simpa [Source.rows] using begins
  · rintro ⟨readable, begins⟩
    exact ⟨_, passes_of_begins readable begins 1 #[], by simp⟩

/-- **What is wrong with a column** is what is wrong with the first line at fault. -/
lemma read_column_eq_error_iff {source : Source} {fault : Fault} :
    (read .column source).outcome = .error fault ↔
      ∃ k line, source.lines[k]? = some line ∧ ColumnFault (k + 1) line fault ∧
        ∀ earlier ∈ source.lines.take k, ∀ number fault, ¬ ColumnFault number earlier fault := by
  rw [read_outcome, map_eq_error, visit, Source.read, visitLines_outcome_eq_error_iff]
  have ends_iff : ∀ {k : Nat} {read : Array Literal} {line? : Option Line},
      (∃ last, EndsAt visitColumn (1 + k) read line? ⟨last, some fault⟩) ↔
        ∃ line, line? = some line ∧ ColumnFault (1 + k) line fault :=
    exists_endsAt_fault_iff columnFault_unreadable_iff fun _ _ _ => visitColumn_eq_fail_iff
  constructor
  · rintro ⟨k, read, last, passes, ends⟩
    obtain ⟨line, here, faulty⟩ := ends_iff.mp ⟨last, ends⟩
    exact ⟨k, line, here, Nat.add_comm 1 k ▸ faulty, (begins_of_passes passes).1⟩
  · rintro ⟨k, line, here, faulty, faultless⟩
    obtain ⟨read, passes⟩ := exists_passes_column faultless 1 #[]
    obtain ⟨last, ends⟩ := ends_iff.mpr ⟨line, here, Nat.add_comm k 1 ▸ faulty⟩
    exact ⟨k, read, last, passes, ends⟩

/-! ## The row -/

/-- What is wrong with the words of a row.  The last of them is judged before the others. -/
inductive RowBlames (line : Nat) (words : List String) : Fault → Prop
  | badLast {front : List String} {last : String} (split : words = front ++ [last])
      (unread : signed64? last = none) : RowBlames line words (.badWord last line)
  | missing {front : List String} {last : String} (split : words = front ++ [last])
      (literal : IsLiteral last) : RowBlames line words (.missingTerminator line)
  | word {before behind : List String} {word last : String} {fault : Fault}
      (split : words = before ++ word :: behind ++ [last]) (isZero : IsZero last)
      (literals : ∀ other ∈ before, IsLiteral other) (blamed : WordBlames line word fault) :
      RowBlames line words fault

/-- What a source in one row comes to at the first of its lines that is not blank, or for want of
such a line. -/
inductive RowComesTo (number : Nat) : Option Line → Except Fault (List Literal) → Prop
  | nothing : RowComesTo number none (.ok [])
  | unreadable : RowComesTo number (some .unreadable) (.error (.unreadableLine number))
  | row {line : Line} {ls : List Literal} (spelled : Clause.SpelledBy line.words ⟨ls⟩) :
      RowComesTo number (some line) (.ok ls)
  | faulty {line : Line} {fault : Fault} (blamed : RowBlames number line.words fault) :
      RowComesTo number (some line) (.error fault)

section Row

variable {number line : Nat} {content : String} {front words : List String} {last : String}
  {ls : List Literal} {fault : Fault}

lemma ofRow_concat_of_isZero (zero : IsZero last) :
    ofRow line (front ++ [last]) = front.mapM (ofWord line) := by
  rw [ofRow, List.getLastD_concat, List.dropLast_concat, Literal.ofWord_of_isZero zero]
  rfl

lemma mapM_ofWord_eq_ok_iff :
    front.mapM (ofWord line) = .ok ls ↔ List.Forall₂ Literal.SpelledBy front ls := by
  simp only [mapM_eq_ok_iff, ofWord_eq_ok_iff]

lemma mapM_ofWord_eq_error_iff : front.mapM (ofWord line) = .error fault ↔
    ∃ before word behind, front = before ++ word :: behind ∧
      (∀ other ∈ before, IsLiteral other) ∧ WordBlames line word fault := by
  simp only [mapM_eq_error_iff, ofWord_eq_ok_iff, ofWord_eq_error_iff]
  constructor
  · rintro ⟨k, word, here, literals, blamed⟩
    obtain ⟨within, rfl⟩ := List.getElem?_eq_some_iff.mp here
    refine ⟨front.take k, _, front.drop (k + 1), ?_, literals, blamed⟩
    rw [← List.drop_eq_getElem_cons, List.take_append_drop]
  · rintro ⟨before, word, behind, rfl, literals, blamed⟩
    refine ⟨before.length, word, by simp, ?_, blamed⟩
    rwa [List.take_left]

/-- A row that is spelled is read. -/
lemma ofRow_of_spelledBy (h : Clause.SpelledBy words ⟨ls⟩) : ofRow line words = .ok ls := by
  obtain ⟨front, last, rfl, literals, zero⟩ := h
  rw [ofRow_concat_of_isZero zero, mapM_ofWord_eq_ok_iff]
  exact literals

/-- What is wrong is what the reader says. -/
lemma RowBlames.ofRow (h : RowBlames line words fault) : ofRow line words = .error fault := by
  cases h with
  | badLast split unread =>
    rw [split, Assumptions.ofRow, List.getLastD_concat, ofWord_of_none unread]
    rfl
  | missing split literal =>
    obtain ⟨l, spelled⟩ := literal
    rw [split, Assumptions.ofRow, List.getLastD_concat, spelled.ofWord]
    exact if_neg spelled.proper
  | word split isZero literals blamed =>
    rw [split, ofRow_concat_of_isZero isZero, mapM_ofWord_eq_error_iff]
    exact ⟨_, _, _, rfl, literals, blamed⟩

/-- **Words are a row, or something is wrong with them**, as far as there are any. -/
lemma spelledBy_or_rowBlames (line : Nat) (filled : words ≠ []) :
    (∃ ls, Clause.SpelledBy words ⟨ls⟩) ∨ ∃ fault, RowBlames line words fault := by
  obtain ⟨front, last, rfl⟩ := (List.eq_nil_or_concat' words).resolve_left filled
  rcases word_cases last with unread | zero | literal
  · exact .inr ⟨_, .badLast rfl unread⟩
  · cases read : front.mapM (ofWord line) with
    | error fault =>
      obtain ⟨before, word, behind, rfl, literals, blamed⟩ := mapM_ofWord_eq_error_iff.mp read
      exact .inr ⟨fault, .word rfl zero literals blamed⟩
    | ok ls => exact .inl ⟨ls, front, last, rfl, mapM_ofWord_eq_ok_iff.mp read, zero⟩
  · exact .inr ⟨_, .missing rfl literal⟩

lemma ofRow_iff (line : Nat) (filled : words ≠ []) :
    (∀ ls, ofRow line words = .ok ls ↔ Clause.SpelledBy words ⟨ls⟩) ∧
      ∀ fault, ofRow line words = .error fault ↔ RowBlames line words fault :=
  outcome_iff ofRow_of_spelledBy RowBlames.ofRow (spelledBy_or_rowBlames line filled)

lemma ne_nil_of_spelledBy (h : Clause.SpelledBy words ⟨ls⟩) : words ≠ [] := by
  obtain ⟨front, last, rfl, -⟩ := h
  simp

lemma RowBlames.ne_nil (h : RowBlames line words fault) : words ≠ [] := by
  cases h with
  | badLast split => simp [split]
  | missing split => simp [split]
  | word split => simp [split]

lemma visitRow_of_blank (blank : Text.words content = []) (read : Array Literal) :
    visitRow number content read = .next read := by
  rw [visitRow, blank]

lemma visitRow_of_filled (filled : Text.words content ≠ []) (read : Array Literal) :
    visitRow number content read =
      match ofRow number (Text.words content) with
      | .ok assumptions => .stop assumptions.toArray
      | .error fault => .fail fault read := by
  rw [visitRow.eq_def]
  split
  next blank => contradiction
  next => rfl

lemma isBlank_text_iff : (Line.text content).IsBlank ↔ Text.words content = [] := by
  simp [Line.IsBlank, Line.words]

lemma visitRow_eq_next_iff {read read' : Array Literal} :
    visitRow number content read = .next read' ↔
      (Line.text content).IsBlank ∧ read' = read := by
  rw [isBlank_text_iff]
  by_cases blank : Text.words content = []
  · simp [visitRow_of_blank blank, blank, eq_comm]
  · rw [visitRow_of_filled blank]
    split <;> simp [blank]

lemma visitRow_eq_stop_iff {read : Array Literal} :
    visitRow number content read = .stop ls.toArray ↔
      Clause.SpelledBy (Text.words content) ⟨ls⟩ := by
  by_cases blank : Text.words content = []
  · rw [visitRow_of_blank blank]
    exact iff_of_false (by simp) fun spelled => ne_nil_of_spelledBy spelled blank
  · rw [visitRow_of_filled blank, ← (ofRow_iff number blank).1]
    split
    next made => simp [made]
    next made => simp [made]

lemma visitRow_eq_fail_iff {read read' : Array Literal} :
    visitRow number content read = .fail fault read' ↔
      RowBlames number (Text.words content) fault ∧ read' = read := by
  by_cases blank : Text.words content = []
  · rw [visitRow_of_blank blank]
    exact iff_of_false (by simp) fun faulty => faulty.1.ne_nil blank
  · rw [visitRow_of_filled blank, ← (ofRow_iff number blank).2]
    split
    next made => simp [made]
    next made =>
      simp only [made, Step.fail.injEq, Except.error.injEq, and_congr_right_iff]
      exact fun _ => eq_comm

/-- Nothing but blank lines is passed. -/
lemma passes_row_iff {lines : List Line} {read read' : Array Literal} :
    Passes visitRow number read lines read' ↔
      (∀ line ∈ lines, line.IsBlank) ∧ read' = read := by
  constructor
  · intro passes
    induction passes with
    | nil => simp
    | cons goesOn _ ih =>
      obtain ⟨blank, rfl⟩ := visitRow_eq_next_iff.mp goesOn
      exact ⟨List.forall_mem_cons.mpr ⟨blank, ih.1⟩, ih.2⟩
  · rintro ⟨blank, rfl⟩
    induction lines generalizing number with
    | nil => exact .nil number read'
    | cons line lines ih =>
      obtain ⟨first, others⟩ := List.forall_mem_cons.mp blank
      cases line with
      | unreadable => exact absurd rfl first.1
      | text content => exact .cons (visitRow_eq_next_iff.mpr ⟨first, rfl⟩) (ih others)

/-- What comes to an end at a line is what the words of the line come to. -/
lemma rowComesTo_iff {line? : Option Line} {result : Except Fault (List Literal)} :
    RowComesTo number line? result ↔
      ∃ reading, EndsAt visitRow number #[] line? reading ∧
        reading.outcome.map Array.toList = result := by
  constructor
  · intro h
    cases h with
    | nothing => exact ⟨_, .complete, rfl⟩
    | unreadable => exact ⟨_, .unreadable, rfl⟩
    | @row line ls spelled =>
      cases line with
      | unreadable => exact absurd rfl (ne_nil_of_spelledBy spelled)
      | text content => exact ⟨_, .stops (visitRow_eq_stop_iff.mpr spelled), rfl⟩
    | @faulty line fault blamed =>
      cases line with
      | unreadable => exact absurd rfl blamed.ne_nil
      | text content => exact ⟨_, .fails (visitRow_eq_fail_iff.mpr ⟨blamed, rfl⟩), rfl⟩
  · rintro ⟨reading, ends, rfl⟩
    cases ends with
    | complete => exact .nothing
    | unreadable => exact .unreadable
    | stops stop => exact .row (visitRow_eq_stop_iff.mp stop)
    | fails fail => exact .faulty (visitRow_eq_fail_iff.mp fail).1

/-- **What a row comes to.** -/
lemma read_row_eq_iff {source : Source} {result : Except Fault (List Literal)} :
    (read .row source).outcome = result ↔
      ∃ k, (∀ line ∈ source.lines.take k, line.IsBlank) ∧
        RowComesTo (k + 1) source.lines[k]? result := by
  rw [read_outcome, visit, Source.read]
  constructor
  · rintro rfl
    obtain ⟨k, read, passes, ends⟩ := exists_passes visitRow 1 #[] source.lines
    obtain ⟨blank, rfl⟩ := passes_row_iff.mp passes
    rw [Nat.add_comm] at ends
    exact ⟨k, blank, rowComesTo_iff.mpr ⟨_, ends, rfl⟩⟩
  · rintro ⟨k, blank, comesTo⟩
    obtain ⟨reading, ends, rfl⟩ := rowComesTo_iff.mp comesTo
    rw [Nat.add_comm] at ends
    rw [(passes_row_iff.mpr ⟨blank, rfl⟩).visitLines_eq ends]

/-- **Behind the first line that is not blank** nothing of a row is seen. -/
lemma read_row_after {front : List UInt8}
    (filled : ∃ line ∈ (Source.after front .empty).lines, ¬ line.IsBlank) (rest rest' : Source) :
    read .row (.after front rest) = read .row (.after front rest') := by
  have ended : ∀ read, ¬ Passes visitRow 1 #[] (Source.after front .empty).lines read :=
    fun read passes => by
      obtain ⟨line, mem, filled⟩ := filled
      exact filled ((passes_row_iff.mp passes).1 line mem)
  have same : (Source.after front rest).read (visit .row) #[] =
      (Source.after front rest').read (visit .row) #[] := Source.read_after ended rest rest'
  rw [read, read, same]

end Row

/-! ## Written assumptions -/

/-- Assumptions as they are written in a layout. -/
def written : AssumptionLayout → List Literal → String
  | .column, ls => String.join (ls.map fun l => row [toString l])
  | .row, ls => row ((ls ++ [terminator]).map toString)

/-- **What is written in a layout is read in it.** -/
lemma read_written {ls : List Literal} (proper : ∀ l ∈ ls, l ≠ terminator) :
    ∀ layout, (read layout (.ofText (written layout ls))).outcome = .ok ls
  | .column => read_column proper (fun _ => []) (by simp)
  | .row => by
    have isWord : ∀ word ∈ (ls ++ [terminator]).map toString, IsWord word :=
      @Clause.isWord_of_mem_writtenWords ⟨ls⟩
    have lines : (Source.ofText (written .row ls)).lines =
        [.text (row ((ls ++ [terminator]).map toString))] := Source.lines_ofText_row isWord
    have spelled : Clause.SpelledBy ((ls ++ [terminator]).map toString) ⟨ls⟩ :=
      Clause.ofWords_eq_ok_iff.mp <| (Clause.ofWords_writtenWords 1 ⟨ls⟩).trans <|
        if_pos fun mem => proper _ mem rfl
    rw [read_row_eq_iff, lines]
    refine ⟨0, by simp, .row ?_⟩
    rwa [Line.words, words_row isWord]

end Assumptions

/-! ## Encoding under either layout -/

/-- The same choices, but for the layout of the assumptions. -/
def Settings.laidOut (settings : Settings) (layout : AssumptionLayout) : Settings :=
  { settings with layout := { settings.layout with value := layout } }

namespace Encoding

variable {settings : Settings} {layout layout' : AssumptionLayout} {clauses source source' : Source}
  {query : Literal} {ls : List Literal}

/-- If there are assumptions, their layout makes no difference to an encoding. -/
lemma ofFormula_laidOut (filled : ls ≠ []) (formula : Formula) :
    (ofFormula (settings.laidOut layout) formula ls query).outcome =
      (ofFormula (settings.laidOut layout') formula ls query).outcome := by
  have weight : hardWeight (settings.laidOut layout) formula ls =
      hardWeight (settings.laidOut layout') formula ls := hardWeight_congr rfl
  have odd : oddities (settings.laidOut layout) formula ls query =
      oddities (settings.laidOut layout') formula ls query := oddities_congr rfl filled
  rw [ofFormula_outcome, ofFormula_outcome, weight, odd]
  rfl

lemma ofSources_outcome {settings : Settings} (same : settings.layout.value = layout)
    (assumed : (Assumptions.read layout source).outcome = .ok ls) :
    (ofSources settings clauses source query).outcome =
      query.opposite >>= fun _ => (Formula.read clauses).outcome >>= fun formula =>
        (ofFormula settings formula ls query).outcome := by
  subst same
  simp only [ofSources, Run.bind_outcome, assumed]
  rfl

/-- **Assumptions in two layouts are encoded alike.**  If there are none, the warnings name the
layout, and may differ; but if one source is encoded, so is the other. -/
lemma ofSources_laidOut
    (assumed : (Assumptions.read layout source).outcome = .ok ls)
    (assumed' : (Assumptions.read layout' source').outcome = .ok ls) :
    (ls ≠ [] → (ofSources (settings.laidOut layout) clauses source query).outcome =
      (ofSources (settings.laidOut layout') clauses source' query).outcome) ∧
    ∀ e, (ofSources (settings.laidOut layout) clauses source query).outcome = .ok e →
      ∃ e', (ofSources (settings.laidOut layout') clauses source' query).outcome = .ok e' ∧
        e'.formula = e.formula := by
  refine ⟨fun filled => ?_, fun e encoded => ?_⟩
  · rw [ofSources_outcome rfl assumed, ofSources_outcome rfl assumed']
    have same : ∀ formula, (ofFormula (settings.laidOut layout) formula ls query).outcome =
        (ofFormula (settings.laidOut layout') formula ls query).outcome := ofFormula_laidOut filled
    simp only [same]
  · obtain ⟨formula, ls', given, assumedAgain, made⟩ := ofSources_eq_ok_iff.mp encoded
    obtain rfl : ls = ls' := Except.ok.inj (assumed.symm.trans assumedAgain)
    have weight : (settings.laidOut layout').weight.value =
        (settings.laidOut layout).weight.value := rfl
    have strict : (settings.laidOut layout').strict.value =
        (settings.laidOut layout).strict.value := rfl
    obtain ⟨e', again, same, -⟩ := ofFormula_congr weight strict made
    exact ⟨e', ofSources_eq_ok_iff.mpr ⟨formula, ls, given, assumed', again⟩, same⟩

end Encoding

/-! ## Both layouts -/

namespace Assumptions

/-- **What each layout holds.**  A column holds the first words of its rows, all of them literals,
and is at fault where its first line at fault is.  A row comes to what its first line that is not
blank comes to, and whatever is behind that line does not matter.  So literals that are written in
one of the layouts are read in it, and two sources of the same literals, each in its own layout, are
encoded alike. -/
theorem read_in_each_layout :
    (∀ source ls, (read .column source).outcome = .ok ls ↔
      .unreadable ∉ source.lines ∧ List.Forall₂ Begins source.rows ls) ∧
    (∀ source fault, (read .column source).outcome = .error fault ↔
      ∃ k line, source.lines[k]? = some line ∧ ColumnFault (k + 1) line fault ∧
        ∀ earlier ∈ source.lines.take k, ∀ number fault, ¬ ColumnFault number earlier fault) ∧
    (∀ source result, (read .row source).outcome = result ↔
      ∃ k, (∀ line ∈ source.lines.take k, line.IsBlank) ∧
        RowComesTo (k + 1) source.lines[k]? result) ∧
    (∀ front, (∃ line ∈ (Source.after front .empty).lines, ¬ line.IsBlank) →
      ∀ rest rest', read .row (.after front rest) = read .row (.after front rest')) ∧
    (∀ layout ls, (∀ l ∈ ls, l ≠ terminator) →
      (read layout (.ofText (written layout ls))).outcome = .ok ls) ∧
    ∀ layout layout' source source' ls, (read layout source).outcome = .ok ls →
      (read layout' source').outcome = .ok ls → ∀ (settings : Settings) clauses query,
        let encoding := Encoding.ofSources (settings.laidOut layout) clauses source query
        let encoding' := Encoding.ofSources (settings.laidOut layout') clauses source' query
        (ls ≠ [] → encoding.outcome = encoding'.outcome) ∧
          ∀ e, encoding.outcome = .ok e →
            ∃ e', encoding'.outcome = .ok e' ∧ e'.formula = e.formula :=
  ⟨fun _ _ => read_column_eq_ok_iff, fun _ _ => read_column_eq_error_iff,
    fun _ _ => read_row_eq_iff, fun _ => read_row_after, fun layout _ proper =>
    read_written proper layout, fun _ _ _ _ _ assumed assumed' _ _ _ =>
    Encoding.ofSources_laidOut assumed assumed'⟩

/-- The literals 2 and -3 in a row, with something unreadable behind it, and in a column, with
something else on its rows.  In the last source the last word is judged before the first. -/
theorem read_in_each_layout_of_two_literals :
    let ls : List Literal := [⟨2⟩, ⟨-3⟩]
    let front := encodeUtf8 " \n+2 -03 00"
    let behind : Source := ⟨[0xFF, newline, 0x31], .broken⟩
    let column := Source.ofText "2 x\n\n-3"
    let clauses := Source.ofText "1 2 0\n-1 3 0\n"
    let faulty := Source.ofText "\nx 0 5\n0\n"
    ((read .row (.after front behind)).outcome = .ok ls ∧
      List.Forall₂ Begins column.rows ls ∧
      ∀ layout, (read layout (.ofText (written layout ls))).outcome = .ok ls) ∧
    (Encoding.ofSources (Settings.default.laidOut .row) clauses (.after front behind) ⟨1⟩).outcome =
      (Encoding.ofSources (Settings.default.laidOut .column) clauses column ⟨1⟩).outcome ∧
    ∃ k, (∀ line ∈ faulty.lines.take k, line.IsBlank) ∧
      RowComesTo (k + 1) faulty.lines[k]? (.error (.missingTerminator 2)) := by
  intro ls front behind column clauses faulty
  obtain ⟨columns, -, rows, unseen, rereads, encodes⟩ := read_in_each_layout
  have inRow : (read .row (.after front behind)).outcome = .ok ls := by
    have filled : words "+2 -03 00\n" ≠ [] := by decide
    rw [unseen front ⟨.text "+2 -03 00\n", by decide, mt isBlank_text_iff.mp filled⟩ behind .empty]
    rfl
  have inColumn : (read .column (.ofText "2 x\n\n-3")).outcome = .ok [⟨2⟩, ⟨-3⟩] := rfl
  refine ⟨⟨inRow, ((columns column ls).mp inColumn).2, fun layout => ?_⟩, ?_,
    (rows faulty _).mp rfl⟩
  · exact rereads layout ls (by decide)
  · exact (encodes _ _ _ _ ls inRow inColumn .default clauses ⟨1⟩).1 (by decide)

end Assumptions

end AxiomPinpointing
