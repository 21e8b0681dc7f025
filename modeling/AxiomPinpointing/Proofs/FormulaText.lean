import AxiomPinpointing.Assumptions
import AxiomPinpointing.Formula
import AxiomPinpointing.Proofs.ClauseText
import AxiomPinpointing.Proofs.Lines
import AxiomPinpointing.Proofs.Outcome
import AxiomPinpointing.Proofs.Weights
import Mathlib

/-!
# Rows of clauses, and columns of assumptions

The reader of clauses is generous, and the question here is only what it makes of rows that were
written: each of them is a clause, as a printed literal begins with a digit or a minus sign and is
not taken for a comment.  So proper clauses that were written row by row are read back
(`Formula.read_rows`).  Assumptions that were written one per row are read back as a column,
whatever else is in the rows (`Assumptions.read_column`).

In the other direction, whatever the readers accept can be written like that: they only push proper
clauses, and assumptions that are literals.
-/

namespace AxiomPinpointing

open Text

/-! ## The first letter of a row -/

lemma firstLetter?_row {word : String} (h : IsWord word) (ws : List String) :
    firstLetter? (row (word :: ws)) = word.toList.head? := by
  obtain ⟨c, cs, spelled⟩ := List.exists_cons_of_ne_nil (mt String.toList_eq_nil_iff.mp h.1)
  have filled : isBlank c = false := h.2 c (by simp [spelled])
  obtain ⟨rest, begins⟩ := exists_toList_row word ws
  rw [firstLetter?, begins, spelled, List.cons_append, List.find?_cons_of_pos (by simp [filled])]
  rfl

lemma head?_toString_int (n : Int) :
    ∃ c, (toString n).toList.head? = some c ∧ (c.isDigit = true ∨ c = '-') := by
  by_cases sign : 0 ≤ n
  · obtain ⟨c, cs, digits⟩ :=
      List.exists_cons_of_ne_nil (Nat.toDigits_ne_nil (b := 10) (n := n.toNat))
    refine ⟨c, ?_, .inl (isDigit_of_mem_toDigits (n := n.toNat) (by simp [digits]))⟩
    rw [toString_of_nonneg sign, toList_toString_nat, digits, List.head?_cons]
  · refine ⟨'-', ?_, .inr rfl⟩
    rw [toList_toString_of_neg (Int.not_le.mp sign), List.head?_cons]

/-! ## Clauses -/

namespace Formula

/-- A line that begins like a number is taken for a clause. -/
lemma visit_of_printed {line : String} {c : Char} (letter : firstLetter? line = some c)
    (printed : c.isDigit = true ∨ c = '-') (number : Nat) (formula : Formula) :
    visit number line formula = .update formula (Clause.ofWords number (words line)) push := by
  rw [visit, letter]
  rcases printed with digit | rfl
  · split
    next none => contradiction
    next comment => cases comment; contradiction
    next problem => cases problem; contradiction
    next ending => cases ending; contradiction
    next => rfl
  · rfl

lemma visit_writtenWords (number : Nat) {clause : Clause} (proper : clause.Proper)
    (formula : Formula) :
    visit number (row clause.writtenWords) formula = .next (formula.push clause) := by
  obtain ⟨word, ws, written⟩ := List.exists_cons_of_ne_nil clause.writtenWords_ne_nil
  have mem : word ∈ clause.writtenWords := by rw [written]; exact List.mem_cons_self
  obtain ⟨l, -, rfl⟩ := List.mem_map.mp mem
  obtain ⟨c, first, printed⟩ := head?_toString_int l.value.toInt
  have letter : firstLetter? (row clause.writtenWords) = some c := by
    rw [written, firstLetter?_row l.isWord_toString]
    exact first
  have made := Clause.ofWords_writtenWords number clause
  rw [if_pos proper] at made
  rw [visit_of_printed letter printed, words_row Clause.isWord_of_mem_writtenWords, made]
  rfl

/-- **Reading rows of proper clauses** pushes all of them. -/
lemma visitLines_writtenWords (clauses : List Clause) (proper : ∀ clause ∈ clauses, clause.Proper)
    (number : Nat) (formula : Formula) :
    visitLines visit number formula (clauses.map fun clause => .text (row clause.writtenWords)) =
      ⟨clauses.foldl push formula, none⟩ := by
  induction clauses generalizing number formula with
  | nil => rfl
  | cons clause clauses ih =>
    have first := visit_writtenWords number (proper clause List.mem_cons_self) formula
    rw [List.map_cons, visitLines_next first]
    exact ih (fun other mem => proper other (List.mem_cons_of_mem clause mem)) _ _

lemma push_ofList (clauses : List Clause) (clause : Clause) :
    (ofList clauses).push clause = ofList (clauses ++ [clause]) := by
  rw [ofList, ofList, List.foldl_append]
  rfl

lemma read_outcome_eq_ok {source : Source} {formula : Formula} :
    (read source).outcome = .ok formula ↔
      (source.read visit empty).outcome = .ok formula ∧ formula.clauses.isEmpty = false := by
  rw [read, Run.bind_outcome_eq_ok]
  simp only [Run.ofExcept]
  constructor
  · rintro ⟨formula', found, h⟩
    split_ifs at h with none
    · contradiction
    · obtain ⟨-, -, h⟩ := Run.bind_outcome_eq_ok.mp h
      cases h
      exact ⟨found, by simpa using none⟩
  · rintro ⟨found, filled⟩
    refine ⟨formula, found, ?_⟩
    rw [if_neg (by simp [filled])]
    rfl

/-- **Proper clauses that were written row by row** are read back, if there are any. -/
lemma read_rows {clauses : List Clause} (filled : clauses ≠ [])
    (proper : ∀ clause ∈ clauses, clause.Proper) :
    (read (.ofText (String.join (clauses.map fun clause => row clause.writtenWords)))).outcome =
      .ok (ofList clauses) := by
  have rows := Source.read_rows visit empty clauses Clause.writtenWords fun _ _ =>
    Clause.isWord_of_mem_writtenWords
  refine read_outcome_eq_ok.mpr ⟨?_, ?_⟩
  · rw [rows, visitLines_writtenWords clauses proper]
    rfl
  · rw [Array.isEmpty_eq_false_iff, ne_eq, ← Array.toList_eq_nil_iff, clauses_ofList]
    exact filled

/-- What is known of a formula that has been read. -/
structure Written (formula : Formula) : Prop where
  pushed : formula = ofList formula.clauses.toList
  proper : ∀ clause ∈ formula.clauses.toList, clause.Proper

lemma Written.push {formula : Formula} (h : formula.Written) {clause : Clause}
    (proper : clause.Proper) : (formula.push clause).Written := by
  have clauses : (formula.push clause).clauses.toList = formula.clauses.toList ++ [clause] := by
    simp [Formula.push]
  refine ⟨?_, ?_⟩
  · rw [clauses, ← push_ofList, ← h.pushed]
  · rw [clauses]
    intro other mem
    rcases List.mem_append.mp mem with mem | mem
    · exact h.proper other mem
    · rwa [List.mem_singleton.mp mem]

/-- Every line leaves the formula one that can be written. -/
lemma visit_written (number : Nat) (line : String) (formula : Formula) (h : formula.Written) :
    (visit number line formula).state.Written := by
  rw [visit.eq_def]
  split
  · exact h
  · exact h
  · exact h
  · exact h
  · cases made : Clause.ofWords number (words line) with
    | error fault => exact h
    | ok clause => exact h.push (Clause.proper_of_ofWords made)

/-- **What has been read can be written**, and there is a clause in it. -/
lemma written_of_read {source : Source} {formula : Formula}
    (h : (read source).outcome = .ok formula) :
    formula.Written ∧ formula.clauses.toList ≠ [] := by
  obtain ⟨found, filled⟩ := read_outcome_eq_ok.mp h
  obtain ⟨-, rfl⟩ := Reading.outcome_eq_ok.mp found
  have start : Written empty := ⟨rfl, by simp [empty]⟩
  refine ⟨visitLines_preserves visit_written 1 empty start source.lines, ?_⟩
  rwa [Array.isEmpty_eq_false_iff, ne_eq, ← Array.toList_eq_nil_iff] at filled

end Formula

/-! ## Assumptions -/

namespace Assumptions

lemma ofWord_toString {l : Literal} (proper : l ≠ Literal.terminator) (number : Nat) :
    ofWord number (toString l) = .ok l := by
  rw [ofWord, Literal.ofWord_toString]
  exact if_neg proper

lemma ne_terminator_of_ofWord {number : Nat} {word : String} {l : Literal}
    (h : ofWord number word = .ok l) : l ≠ Literal.terminator := by
  obtain ⟨read, -, h⟩ := bind_eq_ok.mp h
  split_ifs at h with zero
  rw [← Except.ok.inj h]
  exact zero

/-- **Reading a column**: the first word of every row is an assumption. -/
lemma visitLines_column (ls : List Literal) (proper : ∀ l ∈ ls, l ≠ Literal.terminator)
    (rest : Literal → List String) (number : Nat) (read : Array Literal)
    (words : ∀ l ∈ ls, ∀ word ∈ rest l, IsWord word) :
    visitLines visitColumn number read (ls.map fun l => .text (row (toString l :: rest l))) =
      ⟨read ++ ls.toArray, none⟩ := by
  induction ls generalizing number read with
  | nil => simp [visitLines]
  | cons l ls ih =>
    have isWord : ∀ word ∈ toString l :: rest l, IsWord word :=
      List.forall_mem_cons.mpr ⟨l.isWord_toString, words l List.mem_cons_self⟩
    have first : visitColumn number (row (toString l :: rest l)) read = .next (read.push l) := by
      have made := ofWord_toString (proper l List.mem_cons_self) number
      rw [visitColumn, words_row isWord]
      simp only [made, Step.update]
    rw [List.map_cons, visitLines_next first,
      ih (fun other mem => proper other (List.mem_cons_of_mem l mem)) _ _
        fun other mem => words other (List.mem_cons_of_mem l mem)]
    simp

/-- **Assumptions that were written one per row** are read back as a column. -/
lemma read_column {ls : List Literal} (proper : ∀ l ∈ ls, l ≠ Literal.terminator)
    (rest : Literal → List String) (words : ∀ l ∈ ls, ∀ word ∈ rest l, IsWord word) :
    (read .column (.ofText (String.join (ls.map fun l => row (toString l :: rest l))))).outcome =
      .ok ls := by
  have rows := Source.read_rows visitColumn #[] ls (fun l => toString l :: rest l) fun l known =>
    List.forall_mem_cons.mpr ⟨l.isWord_toString, words l known⟩
  have column := rows.trans (visitLines_column ls proper rest 1 #[] words)
  refine Run.bind_outcome_eq_ok.mpr ⟨ls.toArray, ?_, rfl⟩
  refine (congrArg Reading.outcome column).trans ?_
  simp [Reading.outcome]

lemma visit_proper (layout : AssumptionLayout) (number : Nat) (line : String)
    (read : Array Literal) (h : ∀ l ∈ read, l ≠ Literal.terminator) :
    ∀ l ∈ (visit layout number line read).state, l ≠ Literal.terminator := by
  cases layout with
  | column =>
    rw [visit, visitColumn]
    split
    · exact h
    next word _ _ =>
      cases made : ofWord number word with
      | error fault => exact h
      | ok l =>
        intro other mem
        rcases Array.mem_push.mp mem with mem | rfl
        · exact h other mem
        · exact ne_terminator_of_ofWord made
  | row =>
    rw [visit, visitRow]
    split
    · exact h
    · cases made : ofRow number (words line) with
      | error fault => exact h
      | ok ls =>
        intro l mem
        have mem : l ∈ ls.toArray := mem
        obtain ⟨last, -, made⟩ := bind_eq_ok.mp made
        split_ifs at made with zero
        obtain ⟨word, -, made⟩ := exists_of_mem_mapM made l (by simpa using mem)
        exact ne_terminator_of_ofWord made

/-- **No assumption is a 0**, in either layout. -/
lemma ne_terminator_of_read {layout : AssumptionLayout} {source : Source} {ls : List Literal}
    (h : (read layout source).outcome = .ok ls) : ∀ l ∈ ls, l ≠ Literal.terminator := by
  obtain ⟨found, complete, h⟩ := Run.bind_outcome_eq_ok.mp h
  obtain ⟨-, -, h⟩ := Run.bind_outcome_eq_ok.mp h
  obtain ⟨-, rfl⟩ := Reading.outcome_eq_ok.mp complete
  rw [← Except.ok.inj h]
  have kept := visitLines_preserves (visit_proper layout) 1 #[] (by simp) source.lines
  intro l mem
  exact kept l (Array.mem_toList_iff.mp mem)

end Assumptions

end AxiomPinpointing
