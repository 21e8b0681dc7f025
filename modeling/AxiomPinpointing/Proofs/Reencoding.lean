import AxiomPinpointing.Proofs.Assignment
import AxiomPinpointing.Proofs.Encoding
import AxiomPinpointing.Proofs.FormulaText
import AxiomPinpointing.Proofs.Trimming
import AxiomPinpointing.Proofs.WeightedText
import Mathlib

/-!
# Encoding a second time

The text of an encoding still holds what it was made from: behind the weights, the clauses stand in
the lines after the problem line, and the assumptions in the last lines.  With the weights taken off
(`Source.stripped`), each of the two groups is again a source, of clauses and of a column of
assumptions.

Both read back as what was encoded, however the first two sources were laid out, and so encoding
them gives the same weighted formula again.  Only the complaint that there are no assumptions names
the layout they were looked for in, and may differ.
-/

namespace AxiomPinpointing

open Text

/-! ## Taking the weights off -/

/-- A line without its first word. -/
def Text.dropWord (line : String) : String :=
  String.ofList (takeWord (trimLeft line.toList)).2

/-- The text of a line; one that cannot be read has none. -/
def Line.content : Line → String
  | .text content => content
  | .unreadable => ""

/-- Some lines as a source of their own, each without its first word. -/
def Source.stripped (lines : List Line) : Source :=
  .ofText (String.join (lines.map fun line => dropWord line.content))

lemma Text.dropWord_row {word other : String} {ws : List String} (h : IsWord word)
    (next : IsWord other) : dropWord (row (word :: other :: ws)) = row (other :: ws) := by
  obtain ⟨rest, begins⟩ := exists_toList_row other ws
  have starts : StartsFilled (row (other :: ws)).toList := begins ▸ startsFilled_of_isWord next rest
  have split : row (word :: other :: ws) = word ++ (" " ++ row (other :: ws)) := by
    rw [row_cons (by simp), String.append_assoc]
  have begun : StartsFilled (row (word :: other :: ws)).toList := by
    rw [split, String.toList_append]
    exact startsFilled_of_isWord h _
  rw [dropWord, trimLeft_of_startsFilled begun, split,
    takeWord_append h isRun_space (by simp) starts, String.ofList_toList]

/-- The line of a weighted clause, less its weight, is the row of the clause. -/
lemma dropWord_clauseWords (weighted : WeightedClause) :
    dropWord (row (WeightedFormula.clauseWords weighted)) = row weighted.clause.writtenWords := by
  obtain ⟨word, ws, written⟩ :=
    List.exists_cons_of_ne_nil weighted.clause.writtenWords_ne_nil
  have isWord := weighted.clause.isWord_of_mem_writtenWords word (by simp [written])
  rw [WeightedFormula.clauseWords, written]
  exact dropWord_row (isWord_toString_nat _) isWord

lemma Source.stripped_clauses (clauses : List WeightedClause) :
    stripped (clauses.map fun weighted => .text (row (WeightedFormula.clauseWords weighted))) =
      .ofText (String.join (clauses.map fun weighted => row weighted.clause.writtenWords)) := by
  have rows : clauses.map (fun weighted => dropWord (row (WeightedFormula.clauseWords weighted))) =
      clauses.map fun weighted => row weighted.clause.writtenWords :=
    List.map_congr_left fun weighted _ => dropWord_clauseWords weighted
  rw [stripped, List.map_map, ← rows]
  rfl

/-! ## The two groups of lines -/

section Groups

variable (formula : Formula) (hardWeight : UInt64) (denied : Literal) (assumptions : List Literal)

/-- The lines of an encoding: the problem line, the clauses, the denied query, the assumptions. -/
lemma lines_weightedFormula :
    (Source.ofText (weightedFormula formula hardWeight denied assumptions).text).lines =
      .text (row (weightedFormula formula hardWeight denied assumptions).problemWords) ::
        ((formula.clauses.toList.map (WeightedClause.mk hardWeight)).map
            (fun weighted => .text (row (WeightedFormula.clauseWords weighted))) ++
          .text (row (WeightedFormula.clauseWords ⟨hardWeight, ⟨[denied]⟩⟩)) ::
          (assumptions.map assumptionClause).map
            (fun weighted => .text (row (WeightedFormula.clauseWords weighted)))) := by
  rw [WeightedFormula.lines_text]
  congr 1
  rw [weightedFormula_eq]
  simp

/-- The lines after the problem line are those of the clauses. -/
lemma stripped_hard :
    Source.stripped (((Source.ofText
        (weightedFormula formula hardWeight denied assumptions).text).lines.drop 1).take
          formula.size) =
      .ofText (String.join (formula.clauses.toList.map fun clause => row clause.writtenWords)) := by
  rw [lines_weightedFormula, List.drop_one, List.tail_cons,
    List.take_left' (by simp [Formula.size]), Source.stripped_clauses, List.map_map]
  rfl

/-- The last lines are those of the assumptions. -/
lemma stripped_soft :
    Source.stripped ((Source.ofText
        (weightedFormula formula hardWeight denied assumptions).text).lines.rtake
          assumptions.length) =
      .ofText (String.join (assumptions.map fun l =>
        row (toString l :: [toString Literal.terminator]))) := by
  have last : ∀ (front : List Line) (back : List Line), back.length = assumptions.length →
      (front ++ back).rtake assumptions.length = back := by
    intro front back length
    rw [List.rtake, List.length_append, length, Nat.add_sub_cancel, List.drop_left]
  rw [lines_weightedFormula, ← List.cons_append, List.append_cons, last _ _ (by simp),
    Source.stripped_clauses, List.map_map]
  rfl

end Groups

/-! ## Writing the encoding -/

lemma Literal.ne_terminator_of_opposite {l denied : Literal} (h : l.opposite = .ok denied) :
    denied ≠ terminator := by
  rintro rfl
  have flipped := toInt_of_opposite h
  have nonzero := toInt_ne_zero_of_opposite h
  have zero : terminator.value.toInt = 0 := rfl
  omega

lemma Clause.proper_unit {l : Literal} (h : l ≠ Literal.terminator) : Clause.Proper ⟨[l]⟩ := by
  rw [Clause.Proper, List.mem_singleton]
  exact h.symm

/-- If everything that goes into an encoding is proper, so is the encoding. -/
lemma proper_weightedFormula {formula : Formula} (hardWeight : UInt64) {denied : Literal}
    {assumptions : List Literal} (clauses : ∀ clause ∈ formula.clauses.toList, clause.Proper)
    (query : denied ≠ Literal.terminator) (soft : ∀ l ∈ assumptions, l ≠ Literal.terminator) :
    ∀ weighted ∈ (weightedFormula formula hardWeight denied assumptions).clauses,
      weighted.clause.Proper := by
  intro weighted mem
  rw [weightedFormula_eq, List.mem_toArray, List.mem_append] at mem
  rcases mem with mem | mem
  · obtain ⟨clause, hard, rfl⟩ := List.mem_map.mp mem
    rcases List.mem_append.mp hard with given | asked
    · exact clauses clause given
    · rw [List.mem_singleton.mp asked]
      exact Clause.proper_unit query
  · obtain ⟨l, assumed, rfl⟩ := List.mem_map.mp mem
    exact Clause.proper_unit (soft l assumed)

/-! ## Encoding again -/

namespace Encoding

variable {settings settings' : Settings} {formula : Formula} {assumptions : List Literal}
  {query : Literal} {e : Encoding}

/-- Without assumptions there is a warning. -/
lemma ne_nil_of_oddities (h : oddities settings formula assumptions query = []) :
    assumptions ≠ [] := by
  rintro rfl
  simp [oddities, warningsOf] at h

lemma hardWeight_congr (weight : settings'.weight.value = settings.weight.value) :
    hardWeight settings' formula assumptions = hardWeight settings formula assumptions := by
  rw [hardWeight, weight]
  rfl

/-- The layout matters to the warnings only if there are no assumptions. -/
lemma oddities_congr (weight : settings'.weight.value = settings.weight.value)
    (filled : assumptions ≠ []) :
    oddities settings' formula assumptions query = oddities settings formula assumptions query := by
  rw [oddities, oddities, hardWeight_congr weight]
  simp [warningsOf, filled]

/-- **The layout of the assumptions does not matter** to encoding a formula that is at hand, but for
the warning that there are none. -/
lemma ofFormula_congr (weight : settings'.weight.value = settings.weight.value)
    (strict : settings'.strict.value = settings.strict.value)
    (h : (ofFormula settings formula assumptions query).outcome = .ok e) :
    ∃ e', (ofFormula settings' formula assumptions query).outcome = .ok e' ∧
      e'.formula = e.formula ∧ (assumptions ≠ [] → e'.warnings = e.warnings) := by
  obtain ⟨denied, opposite, filled, tolerated, rfl⟩ := ofFormula_eq_ok_iff.mp h
  refine ⟨_, ofFormula_eq_ok_iff.mpr ⟨denied, opposite, filled, fun strictly => ?_, rfl⟩, ?_,
    oddities_congr weight⟩
  · have none := tolerated (strict ▸ strictly)
    rw [oddities_congr weight (ne_nil_of_oddities none)]
    exact none
  · rw [hardWeight_congr weight]

lemma ofSources_eq_ok_iff {clauses assumptionSource : Source} :
    (ofSources settings clauses assumptionSource query).outcome = .ok e ↔
      ∃ formula assumptions, (Formula.read clauses).outcome = .ok formula ∧
        (Assumptions.read settings.layout.value assumptionSource).outcome = .ok assumptions ∧
        (ofFormula settings formula assumptions query).outcome = .ok e := by
  simp only [ofSources, Run.bind_outcome_eq_ok]
  constructor
  · rintro ⟨-, -, formula, given, assumptions, assumed, made⟩
    exact ⟨formula, assumptions, given, assumed, made⟩
  · rintro ⟨formula, assumptions, given, assumed, made⟩
    obtain ⟨denied, opposite, -⟩ := ofFormula_eq_ok_iff.mp made
    exact ⟨denied, opposite, formula, given, assumptions, assumed, made⟩

/-- **Encoding what an encoding holds gives it again.**  The text of an encoding reads back; the
lines of its clauses, and its last lines, read back as the clauses and the assumptions that were
encoded; and encoding them again gives the same weighted formula, with the same warnings if there
are assumptions. -/
theorem ofSources_stripped (settings : Settings) (clauses assumptionSource : Source)
    (query : Literal) (e : Encoding)
    (encoded : (ofSources settings clauses assumptionSource query).outcome = .ok e) :
    ∃ formula assumptions, (Formula.read clauses).outcome = .ok formula ∧
      (Assumptions.read settings.layout.value assumptionSource).outcome = .ok assumptions ∧
      (formula.size + 1 + assumptions.length < 2 ^ 64 →
        let lines := (Source.ofText e.formula.text).lines
        let hard := Source.stripped ((lines.drop 1).take formula.size)
        let soft := Source.stripped (lines.rtake assumptions.length)
        WeightedFormula.read (.ofText e.formula.text) = .ok e.formula ∧
        (Formula.read hard).outcome = .ok formula ∧
        (Assumptions.read .column soft).outcome = .ok assumptions ∧
        ∀ settings' : Settings, settings'.layout.value = .column →
          settings'.weight.value = settings.weight.value →
          settings'.strict.value = settings.strict.value →
          ∃ e', (ofSources settings' hard soft query).outcome = .ok e' ∧
            e'.formula = e.formula ∧ (assumptions ≠ [] → e'.warnings = e.warnings)) := by
  obtain ⟨formula, assumptions, given, assumed, made⟩ := ofSources_eq_ok_iff.mp encoded
  refine ⟨formula, assumptions, given, assumed, fun fits => ?_⟩
  obtain ⟨written, filled⟩ := Formula.written_of_read given
  have literals := Assumptions.ne_terminator_of_read assumed
  obtain ⟨denied, opposite, rfl⟩ := eq_of_ofFormula_outcome made
  have clausesAgain : (Formula.read (.ofText (String.join
      (formula.clauses.toList.map fun clause => row clause.writtenWords)))).outcome =
      .ok formula := by
    rw [Formula.read_rows filled written.proper, ← written.pushed]
  have assumptionsAgain := Assumptions.read_column literals
    (fun _ => [toString Literal.terminator]) fun _ _ word mem => by
      rw [List.mem_singleton.mp mem]
      exact Literal.terminator.isWord_toString
  dsimp only
  rw [stripped_hard, stripped_soft]
  refine ⟨?_, clausesAgain, assumptionsAgain, fun settings' column weight strict => ?_⟩
  · refine WeightedFormula.read_text_of_proper ?_ (proper_weightedFormula _ written.proper
      (Literal.ne_terminator_of_opposite opposite) literals)
    rwa [size_weightedFormula]
  · obtain ⟨e', again, same, warnings⟩ := ofFormula_congr weight strict made
    refine ⟨e', ofSources_eq_ok_iff.mpr ⟨formula, assumptions, clausesAgain, ?_, again⟩, same,
      warnings⟩
    rw [column]
    exact assumptionsAgain

/-- A source with comments, an empty clause and numbers spelled in other ways, with the assumptions
in a row and one of them twice, is encoded; what the encoding holds is encoded to the same. -/
theorem ofSources_stripped_of_row :
    let clauses := Source.ofText "c two variables\n +1\t-02 0\n0\n%\n9 0\n"
    let assumptionSource := Source.ofText "\n2 1 2 00\n3\n"
    let settings : Settings := { layout := ⟨"mode", .row, .column, .row⟩ }
    ∃ e, (ofSources settings clauses assumptionSource ⟨1⟩).outcome = .ok e ∧
      ∃ e', (ofSources {} (.stripped (((Source.ofText e.formula.text).lines.drop 1).take 2))
          (.stripped ((Source.ofText e.formula.text).lines.rtake 3)) ⟨1⟩).outcome = .ok e' ∧
        e'.formula = e.formula ∧ e'.warnings = e.warnings := by
  intro clauses assumptionSource settings
  have encoded : (ofSources settings clauses assumptionSource ⟨1⟩).outcome =
      .ok ⟨⟨2, 4, #[⟨4, ⟨[⟨1⟩, ⟨-2⟩]⟩⟩, ⟨4, ⟨[]⟩⟩, ⟨4, ⟨[⟨-1⟩]⟩⟩, ⟨1, ⟨[⟨2⟩]⟩⟩, ⟨1, ⟨[⟨1⟩]⟩⟩,
        ⟨1, ⟨[⟨2⟩]⟩⟩]⟩, [.weightRaised 4 2]⟩ := rfl
  refine ⟨_, encoded, ?_⟩
  obtain ⟨formula, assumptions, given, assumed, again⟩ := ofSources_stripped _ _ _ _ _ encoded
  obtain rfl : Formula.mk #[⟨[⟨1⟩, ⟨-2⟩]⟩, ⟨[]⟩] 2 = formula := Except.ok.inj given
  obtain rfl : [⟨2⟩, ⟨1⟩, ⟨2⟩] = assumptions := Except.ok.inj assumed
  obtain ⟨-, -, -, encodes⟩ := again (by decide)
  obtain ⟨e', same, formula, warnings⟩ := encodes {} rfl rfl rfl
  exact ⟨e', same, formula, warnings (by decide)⟩

end Encoding

end AxiomPinpointing
