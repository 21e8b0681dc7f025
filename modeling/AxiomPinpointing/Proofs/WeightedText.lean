import AxiomPinpointing.Proofs.BlankRuns
import AxiomPinpointing.Proofs.ClauseText
import AxiomPinpointing.Proofs.Lines
import AxiomPinpointing.Proofs.Outcome
import AxiomPinpointing.WeightedFormula.Reader
import Mathlib

/-!
# Written weighted formulas

A weighted formula is written as rows of words: the problem line, and a row per clause.  The reader
takes the rows one after the other, and what has been read after some rows is the problem line with
the clauses so far.

So a formula reads back exactly if its clauses are proper; otherwise the reader stops at the first
that is not, and blames its line.  In the other direction, every clause the reader has taken is
proper, and the number of clauses was announced in 64 bits, so that what has been read can be
written and read again.
-/

namespace AxiomPinpointing

open Text

namespace WeightedFormula

/-! ## Rows -/

/-- The words of the problem line. -/
def problemWords (formula : WeightedFormula) : List String :=
  ["p", "wcnf", toString formula.topVar.toNat, toString formula.size,
    toString formula.hardWeight.toNat]

/-- The words of a clause with its weight. -/
def clauseWords (weighted : WeightedClause) : List String :=
  toString weighted.weight.toNat :: weighted.clause.writtenWords

lemma problemLine_eq (formula : WeightedFormula) :
    formula.problemLine = row formula.problemWords := by
  have opening : toString "p wcnf " = "p" ++ " " ++ ("wcnf" ++ " ") := rfl
  simp only [problemLine, row, problemWords, opening, String.intercalate_cons_cons,
    String.intercalate_singleton, String.append_assoc]
  rfl

lemma line_eq (weighted : WeightedClause) : weighted.line = row (clauseWords weighted) := by
  rw [WeightedClause.line, row, clauseWords, Clause.terminated_eq,
    String.intercalate_cons_of_ne_nil weighted.clause.writtenWords_ne_nil]
  rfl

lemma isWord_of_mem_problemWords {formula : WeightedFormula} :
    ∀ word ∈ formula.problemWords, IsWord word := by
  intro word mem
  simp only [problemWords, List.mem_cons, List.not_mem_nil, or_false] at mem
  rcases mem with rfl | rfl | rfl | rfl | rfl
  · exact isWord_iff.mpr rfl
  · exact isWord_iff.mpr rfl
  all_goals exact isWord_toString_nat _

lemma isWord_of_mem_clauseWords {weighted : WeightedClause} :
    ∀ word ∈ clauseWords weighted, IsWord word := by
  intro word mem
  rcases List.mem_cons.mp mem with rfl | mem
  · exact isWord_toString_nat _
  · exact Clause.isWord_of_mem_writtenWords word mem

/-- **The lines of a written formula.** -/
lemma lines_text (formula : WeightedFormula) :
    (Source.ofText formula.text).lines =
      .text (row formula.problemWords) ::
        formula.clauses.toList.map fun weighted => .text (row (clauseWords weighted)) := by
  have rows : formula.text =
      String.join ((formula.problemWords :: formula.clauses.toList.map clauseWords).map row) := by
    rw [text, problemLine_eq, List.map_cons, String.join_cons, List.map_map]
    congr 2
    exact List.map_congr_left fun weighted _ => line_eq weighted
  rw [rows, Source.lines_ofText_rows, List.map_cons, List.map_map]
  · rfl
  · rintro ws mem
    rcases List.mem_cons.mp mem with rfl | mem
    · exact isWord_of_mem_problemWords
    · obtain ⟨weighted, -, rfl⟩ := List.mem_map.mp mem
      exact isWord_of_mem_clauseWords

/-! ## Reading the rows back -/

/-- What is known after the problem line of a formula. -/
def started (formula : WeightedFormula) : Draft :=
  ⟨UInt64.ofNat formula.size, ⟨formula.topVar, formula.hardWeight, #[]⟩⟩

lemma visit_problemWords {formula : WeightedFormula} (fits : formula.size < 2 ^ 64) (number : Nat) :
    visit number (row formula.problemWords) none = .next (some formula.started) := by
  have count := unsigned64?_toString_of_lt fits
  have problem : Draft.ofProblem? formula.problemWords.tail = some formula.started := by
    simp only [problemWords, List.tail_cons, Draft.ofProblem?, unsigned64?_toString, count]
    rfl
  rw [problemWords, List.tail_cons] at problem
  rw [visit.eq_def, words_row isWord_of_mem_problemWords, problemWords]
  simp only [problem]

lemma visit_of_words {line word : String} {rest : List String} (h : words line = word :: rest)
    (comment : word ≠ "c") (problem : word ≠ "p") (number : Nat) (draft : Draft) :
    visit number line (some draft) =
      .update (some draft) (clauseOfWords number word rest) fun draft weighted =>
        draft.map (·.add weighted) := by
  have behind : words (behindWord line) = rest := by rw [words_behindWord, h, List.tail_cons]
  rw [visit.eq_def, h, behind]
  split <;> simp_all

lemma visit_clauseWords (number : Nat) (weighted : WeightedClause) (draft : Draft) :
    visit number (row (clauseWords weighted)) (some draft) =
      if weighted.clause.Proper then .next (some (draft.add weighted))
      else .fail (.misplacedTerminator number) (some draft) := by
  have weight := unsigned64?_toString weighted.weight
  have noNumeral : ∀ word, unsigned64? word = none → toString weighted.weight.toNat ≠ word := by
    rintro word none rfl
    rw [none] at weight
    contradiction
  have taken : words (row (clauseWords weighted)) =
      toString weighted.weight.toNat :: weighted.clause.writtenWords :=
    words_row isWord_of_mem_clauseWords
  rw [visit_of_words taken (noNumeral "c" rfl) (noNumeral "p" rfl), clauseOfWords, weight]
  simp only [Clause.ofWords_writtenWords]
  split_ifs with proper
  · rfl
  · rfl

/-- **Reading proper clauses** adds all of them to the draft. -/
lemma visitLines_proper (clauses : List WeightedClause)
    (proper : ∀ weighted ∈ clauses, weighted.clause.Proper) (number : Nat) (draft : Draft)
    (rest : List Line) :
    visitLines visit number (some draft)
        (clauses.map (fun weighted => .text (row (clauseWords weighted))) ++ rest) =
      visitLines visit (number + clauses.length) (some (clauses.foldl Draft.add draft)) rest := by
  induction clauses generalizing number draft with
  | nil => rfl
  | cons weighted clauses ih =>
    have first := visit_clauseWords number weighted draft
    rw [if_pos (proper weighted List.mem_cons_self)] at first
    rw [List.map_cons, List.cons_append, visitLines_next first,
      ih fun other mem => proper other (List.mem_cons_of_mem weighted mem)]
    rw [List.length_cons, Nat.add_right_comm, Nat.add_assoc, List.foldl_cons]

lemma Draft.foldl_add (clauses : List WeightedClause) (draft : Draft) :
    clauses.foldl Draft.add draft = ⟨draft.announced, clauses.foldl .add draft.formula⟩ := by
  induction clauses generalizing draft with
  | nil => rfl
  | cons weighted clauses ih => exact ih (draft.add weighted)

/-- The rows of a formula, up to some clause. -/
lemma visitLines_text {formula : WeightedFormula} (fits : formula.size < 2 ^ 64)
    {before after : List WeightedClause} (split : formula.clauses.toList = before ++ after)
    (proper : ∀ weighted ∈ before, weighted.clause.Proper) :
    (Source.ofText formula.text).read visit none =
      visitLines visit (before.length + 2) (some (before.foldl Draft.add formula.started))
        (after.map fun weighted => .text (row (clauseWords weighted))) := by
  rw [Source.read, lines_text, visitLines_next (visit_problemWords fits 1), split, List.map_append,
    visitLines_proper before proper, Nat.add_comm]

lemma foldl_add_started (formula : WeightedFormula) :
    formula.clauses.toList.foldl Draft.add formula.started =
      ⟨UInt64.ofNat formula.size, formula⟩ := by
  rw [Draft.foldl_add, WeightedFormula.foldl_add]
  simp [started]

lemma read_text_of_proper {formula : WeightedFormula} (fits : formula.size < 2 ^ 64)
    (proper : ∀ weighted ∈ formula.clauses, weighted.clause.Proper) :
    read (.ofText formula.text) = .ok formula := by
  have all : ∀ weighted ∈ formula.clauses.toList, weighted.clause.Proper := by simpa using proper
  have finished : Draft.finish (some ⟨UInt64.ofNat formula.size, formula⟩) = .ok formula :=
    if_pos (UInt64.toNat_ofNat_of_lt' fits)
  rw [read, visitLines_text fits (List.append_nil _).symm all, foldl_add_started]
  exact finished

lemma read_text_of_improper {formula : WeightedFormula} (fits : formula.size < 2 ^ 64)
    {before after : List WeightedClause} {weighted : WeightedClause}
    (split : formula.clauses.toList = before ++ weighted :: after)
    (proper : ∀ earlier ∈ before, earlier.clause.Proper) (improper : ¬ weighted.clause.Proper) :
    read (.ofText formula.text) = .error (.misplacedTerminator (before.length + 2)) := by
  have blamed := visit_clauseWords (before.length + 2) weighted
    (before.foldl Draft.add formula.started)
  rw [if_neg improper] at blamed
  rw [read, visitLines_text fits split proper, List.map_cons, visitLines_fail blamed]
  rfl

/-! ## What the reader accepts -/

/-- Holds if the clauses read so far are proper. -/
def Draft.AllProper (draft : Option Draft) : Prop :=
  ∀ begun ∈ draft, ∀ weighted ∈ begun.formula.clauses, weighted.clause.Proper

lemma clauses_of_ofProblem? {ws : List String} {draft : Draft}
    (h : Draft.ofProblem? ws = some draft) : draft.formula.clauses = #[] := by
  rw [Draft.ofProblem?.eq_def] at h
  split at h
  next =>
    simp only [bind, Option.bind_eq_some_iff] at h
    obtain ⟨topVar, -, count, -, hardWeight, -, h⟩ := h
    injection h with h
    rw [← h]
  next => contradiction

lemma proper_of_clauseOfWords {number : Nat} {word : String} {rest : List String}
    {weighted : WeightedClause} (h : clauseOfWords number word rest = .ok weighted) :
    weighted.clause.Proper := by
  rw [clauseOfWords] at h
  split at h
  next => contradiction
  next weight _ =>
    obtain ⟨clause, read, rfl⟩ := map_eq_ok.mp h
    exact Clause.proper_of_ofWords read

/-- Every step keeps the clauses proper. -/
lemma visit_allProper (number : Nat) (line : String) (draft : Option Draft)
    (h : Draft.AllProper draft) : Draft.AllProper (visit number line draft).state := by
  rw [visit.eq_def]
  split
  next => exact h
  next => exact h
  next problem _ =>
    split
    next start announced =>
      rintro begun ⟨⟩ weighted mem
      rw [clauses_of_ofProblem? announced] at mem
      simp at mem
    next => exact h
  next => exact h
  next => exact h
  next weight _ begun _ _ _ =>
    dsimp only
    cases read : clauseOfWords number weight (words (behindWord line)) with
    | error => exact h
    | ok weighted =>
      rintro draft ⟨⟩ other mem
      rcases Array.mem_push.mp mem with mem | rfl
      · exact h begun rfl other mem
      · exact proper_of_clauseOfWords read

/-- **What has been read can be written and read again**: its clauses are proper, and there are not
too many of them. -/
lemma proper_of_read {source : Source} {formula : WeightedFormula}
    (h : read source = .ok formula) :
    formula.size < 2 ^ 64 ∧ ∀ weighted ∈ formula.clauses, weighted.clause.Proper := by
  have kept : Draft.AllProper (source.read visit none).state :=
    visitLines_preserves visit_allProper 1 none (fun _ none => by contradiction) source.lines
  obtain ⟨state, complete, finished⟩ := bind_eq_ok.mp h
  obtain ⟨-, rfl⟩ := Reading.outcome_eq_ok.mp complete
  rw [Draft.finish.eq_def] at finished
  split at finished
  next draft last =>
    split_ifs at finished with announced
    rw [← Except.ok.inj finished, ← announced]
    exact ⟨draft.announced.toNat_lt, kept draft last⟩
  next => contradiction

/-! ## The round trip -/

/-- **Writing and reading, exactly.**  A formula of fewer than 2⁶⁴ clauses reads back as itself if
all of them are proper, and only then.  If one is not, the first of these is blamed; its line is one
further than its position, because of the problem line.  Whatever source a formula is read from, it
can be written and read again. -/
theorem read_text_iff_proper :
    (∀ formula : WeightedFormula, formula.size < 2 ^ 64 →
      (read (.ofText formula.text) = .ok formula ↔
        ∀ weighted ∈ formula.clauses, weighted.clause.Proper) ∧
      ∀ before weighted after, formula.clauses.toList = before ++ weighted :: after →
        (∀ earlier ∈ before, earlier.clause.Proper) → ¬ weighted.clause.Proper →
        read (.ofText formula.text) = .error (.misplacedTerminator (before.length + 2))) ∧
    ∀ source formula, read source = .ok formula →
      (∀ weighted ∈ formula.clauses, weighted.clause.Proper) ∧
      read (.ofText formula.text) = .ok formula := by
  refine ⟨fun formula fits => ⟨⟨fun back => (proper_of_read back).2, read_text_of_proper fits⟩,
    fun _ _ _ => read_text_of_improper fits⟩, fun source formula accepted => ?_⟩
  obtain ⟨fits, proper⟩ := proper_of_read accepted
  exact ⟨proper, read_text_of_proper fits proper⟩

/-- The empty clause and the extreme numbers read back.  With a 0 in the second clause, the third
line is at fault.  A source that spells its numbers in another way is read, and can be written. -/
theorem read_text_of_extremes :
    read (.ofText (text ⟨3, 4, #[⟨4, ⟨[⟨1⟩, Literal.least]⟩⟩, ⟨18446744073709551615, ⟨[]⟩⟩]⟩)) =
      .ok ⟨3, 4, #[⟨4, ⟨[⟨1⟩, Literal.least]⟩⟩, ⟨18446744073709551615, ⟨[]⟩⟩]⟩ ∧
    read (.ofText (text ⟨3, 4, #[⟨4, ⟨[⟨1⟩]⟩⟩, ⟨1, ⟨[⟨2⟩, ⟨0⟩, ⟨3⟩]⟩⟩, ⟨1, ⟨[⟨0⟩]⟩⟩]⟩)) =
      .error (.misplacedTerminator 3) ∧
    ∃ formula, read (.ofText "p wcnf 3 1 4\n07 +2\t-3 0") = .ok formula ∧
      read (.ofText formula.text) = .ok formula := by
  refine ⟨(read_text_iff_proper.1 _ (by decide)).1.mpr (by decide),
    (read_text_iff_proper.1 _ (by decide)).2 [⟨4, ⟨[⟨1⟩]⟩⟩] _ _ rfl (by decide) (by decide), ?_⟩
  have accepted : read (.ofText "p wcnf 3 1 4\n07 +2\t-3 0") =
      .ok ⟨3, 4, #[⟨7, ⟨[⟨2⟩, ⟨-3⟩]⟩⟩]⟩ := rfl
  exact ⟨_, accepted, (read_text_iff_proper.2 _ _ accepted).2⟩

end WeightedFormula

end AxiomPinpointing
