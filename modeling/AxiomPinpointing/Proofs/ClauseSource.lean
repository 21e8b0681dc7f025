import AxiomPinpointing.Proofs.FormulaText
import AxiomPinpointing.Proofs.LiteralLine
import AxiomPinpointing.Proofs.Stopping

/-!
# What the reader of clauses accepts

A source of clauses is settled by one of its lines: the first that cannot be read, that ends the
formula, or that should be a clause and is none (`Line.SettlesFormula`).  The lines in front of it
are clauses or are passed over, and they are the formula; nothing behind it is ever seen.  What a
source comes to is therefore said by the clauses in front of that line, its number, and the line
itself (`Formula.Settles`).
-/

namespace AxiomPinpointing

open Text

/-! ## The lines of a source of clauses -/

/-- The first letter on a line, if it can be read and is not blank. -/
def Line.firstLetter? : Line → Option Char
  | .text content => Text.firstLetter? content
  | .unreadable => none

/-- Holds of the lines that should be clauses: they are not blank, and begin neither like a comment
or a problem line nor like the end of the formula. -/
def Line.isClauseLine (line : Line) : Bool :=
  line.firstLetter?.any fun c => c ∉ ['c', 'p', '%']

/-- Holds of the lines that settle what a source of clauses comes to. -/
def Line.SettlesFormula (line : Line) : Prop :=
  line = .unreadable ∨ line.firstLetter? = some '%' ∨
    (line.isClauseLine ∧ ∀ clause, ¬ Clause.SpelledBy line.words clause)

lemma Line.isClauseLine_iff {line : Line} : line.isClauseLine ↔
    ∃ c, line.firstLetter? = some c ∧ c ≠ 'c' ∧ c ≠ 'p' ∧ c ≠ '%' := by
  simp [isClauseLine, Option.any_eq_true]

namespace Formula

/-- The clauses on some lines, in order: one for each line that should be a clause. -/
def Gathers (lines : List Line) (clauses : List Clause) : Prop :=
  List.Forall₂ (fun line clause => Clause.SpelledBy line.words clause)
    (lines.filter Line.isClauseLine) clauses

/-- The formula of some clauses; there has to be one. -/
def gathered (clauses : List Clause) : Except Fault Formula :=
  if clauses = [] then .error .noClauses else .ok (ofList clauses)

/-- **What a source comes to** at the line that settles it, or for want of such a line, given the
clauses in front of it and its number. -/
inductive Settles (clauses : List Clause) (number : Nat) :
    Option Line → Except Fault Formula → Prop
  | unreadable : Settles clauses number (some .unreadable) (.error (.unreadableLine number))
  | ending {line : Line} (ends : line.firstLetter? = some '%') :
      Settles clauses number (some line) (gathered clauses)
  | faulty {line : Line} {fault : Fault} (clauseLine : line.isClauseLine)
      (blamed : Clause.Blames number line.words fault) :
      Settles clauses number (some line) (.error fault)
  | complete : Settles clauses number none (gathered clauses)

/-! ## One line -/

section Visits

variable {content : String} (number : Nat) (formula : Formula)

lemma visit_of_clauseLine (h : (Line.text content).isClauseLine) :
    visit number content formula =
      .update formula (Clause.ofWords number (words content)) push := by
  obtain ⟨c, letter, notComment, notProblem, notEnd⟩ := Line.isClauseLine_iff.mp h
  rw [visit, show firstLetter? content = some c from letter]
  split
  next none => contradiction
  next comment => cases comment; contradiction
  next problem => cases problem; contradiction
  next ending => cases ending; contradiction
  next => rfl

lemma visit_of_ending (h : (Line.text content).firstLetter? = some '%') :
    visit number content formula = .stop formula := by
  rw [visit, show firstLetter? content = some '%' from h]
  rfl

lemma visit_of_passedOver (noClause : ¬ (Line.text content).isClauseLine)
    (noEnd : (Line.text content).firstLetter? ≠ some '%') :
    visit number content formula = .next formula := by
  rw [visit]
  split
  next => rfl
  next => rfl
  next => rfl
  next ending => exact absurd ending noEnd
  next c notComment notProblem notEnd letter =>
    have clauseLine : (Line.text content).isClauseLine :=
      Line.isClauseLine_iff.mpr ⟨c, letter, notComment, notProblem, notEnd⟩
    contradiction

/-- A line that the reader gets past is passed over, or adds the clause that it spells. -/
lemma visit_eq_next_iff {formula' : Formula} : visit number content formula = .next formula' ↔
    (¬ (Line.text content).isClauseLine ∧ (Line.text content).firstLetter? ≠ some '%' ∧
      formula' = formula) ∨
    ((Line.text content).isClauseLine ∧
      ∃ clause, Clause.SpelledBy (words content) clause ∧ formula' = formula.push clause) := by
  by_cases clauseLine : (Line.text content).isClauseLine
  · rw [visit_of_clauseLine number formula clauseLine, Step.update_eq_next_iff]
    simp [Clause.ofWords_eq_ok_iff, clauseLine]
  · by_cases ending : (Line.text content).firstLetter? = some '%'
    · rw [visit_of_ending number formula ending]
      simp [clauseLine, ending]
    · rw [visit_of_passedOver number formula clauseLine ending]
      simp [clauseLine, ending, eq_comm]

lemma visit_eq_stop_iff {formula' : Formula} : visit number content formula = .stop formula' ↔
    (Line.text content).firstLetter? = some '%' ∧ formula' = formula := by
  by_cases clauseLine : (Line.text content).isClauseLine
  · obtain ⟨c, letter, -, -, notEnd⟩ := Line.isClauseLine_iff.mp clauseLine
    rw [visit_of_clauseLine number formula clauseLine, letter]
    simp [Step.update_ne_stop, notEnd]
  · by_cases ending : (Line.text content).firstLetter? = some '%'
    · rw [visit_of_ending number formula ending]
      simp [ending, eq_comm]
    · rw [visit_of_passedOver number formula clauseLine ending]
      simp [ending]

lemma visit_eq_fail_iff {fault : Fault} {formula' : Formula} :
    visit number content formula = .fail fault formula' ↔
      (Line.text content).isClauseLine ∧ Clause.Blames number (words content) fault ∧
        formula' = formula := by
  by_cases clauseLine : (Line.text content).isClauseLine
  · rw [visit_of_clauseLine number formula clauseLine, Step.update_eq_fail_iff]
    simp [Clause.ofWords_eq_error_iff, clauseLine]
  · by_cases ending : (Line.text content).firstLetter? = some '%'
    · rw [visit_of_ending number formula ending]
      simp [clauseLine]
    · rw [visit_of_passedOver number formula clauseLine ending]
      simp [clauseLine]

end Visits

/-! ## The lines in front -/

section Gathering

variable {line : Line} {lines : List Line} {clauses : List Clause}

lemma gathers_cons_of_clauseLine (h : line.isClauseLine) : Gathers (line :: lines) clauses ↔
    ∃ clause rest, Clause.SpelledBy line.words clause ∧ Gathers lines rest ∧
      clauses = clause :: rest := by
  rw [Gathers, List.filter_cons_of_pos h, List.forall₂_cons_left_iff]
  rfl

lemma gathers_cons_of_passedOver (h : ¬ line.isClauseLine) :
    Gathers (line :: lines) clauses ↔ Gathers lines clauses := by
  rw [Gathers, List.filter_cons_of_neg h, Gathers]

/-- What is passed does not settle anything, and its clauses are pushed. -/
lemma gathers_of_passes {number : Nat} {formula formula' : Formula}
    (h : Passes visit number formula lines formula') :
    (∀ line ∈ lines, ¬ line.SettlesFormula) ∧
      ∃ clauses, Gathers lines clauses ∧ formula' = clauses.foldl push formula := by
  induction h with
  | nil => exact ⟨by simp, [], .nil, rfl⟩
  | cons goesOn _ ih =>
    obtain ⟨unsettled, clauses, gathers, rfl⟩ := ih
    rw [List.forall_mem_cons]
    rcases (visit_eq_next_iff _ _).mp goesOn with
      ⟨noClause, noEnd, rfl⟩ | ⟨clauseLine, clause, spelled, rfl⟩
    · refine ⟨⟨?_, unsettled⟩, clauses, (gathers_cons_of_passedOver noClause).mpr gathers, rfl⟩
      simp [Line.SettlesFormula, noClause, noEnd]
    · refine ⟨⟨?_, unsettled⟩, clause :: clauses,
        (gathers_cons_of_clauseLine clauseLine).mpr ⟨clause, clauses, spelled, gathers, rfl⟩, rfl⟩
      obtain ⟨c, letter, -, -, notEnd⟩ := Line.isClauseLine_iff.mp clauseLine
      rintro (unreadable | ending | ⟨-, none⟩)
      · contradiction
      · exact notEnd (Option.some.inj (letter.symm.trans ending))
      · exact none clause spelled

/-- Lines that settle nothing are passed. -/
lemma passes_of_gathers (unsettled : ∀ line ∈ lines, ¬ line.SettlesFormula)
    (gathers : Gathers lines clauses) (number : Nat) (formula : Formula) :
    Passes visit number formula lines (clauses.foldl push formula) := by
  induction lines generalizing clauses number formula with
  | nil =>
    cases gathers
    exact .nil number formula
  | cons line lines ih =>
    obtain ⟨first, others⟩ := List.forall_mem_cons.mp unsettled
    cases line with
    | unreadable => exact absurd (.inl rfl) first
    | text content =>
      by_cases clauseLine : (Line.text content).isClauseLine
      · obtain ⟨clause, rest, spelled, behind, rfl⟩ :=
          (gathers_cons_of_clauseLine clauseLine).mp gathers
        exact .cons ((visit_eq_next_iff _ _).mpr (.inr ⟨clauseLine, clause, spelled, rfl⟩))
          (ih others behind _ _)
      · have noEnd : (Line.text content).firstLetter? ≠ some '%' := fun ending =>
          first (.inr (.inl ending))
        exact .cons ((visit_eq_next_iff _ _).mpr (.inl ⟨clauseLine, noEnd, rfl⟩))
          (ih others ((gathers_cons_of_passedOver clauseLine).mp gathers) _ _)

end Gathering

/-! ## The line that settles the formula -/

/-- The end of the reading, when there has to be a clause. -/
def conclude (reading : Reading Formula) : Except Fault Formula :=
  reading.outcome >>= fun formula =>
    if formula.clauses.isEmpty then .error .noClauses else .ok formula

lemma read_outcome (source : Source) :
    (read source).outcome = conclude (source.read visit empty) := by
  rw [read, Run.bind_outcome, conclude]
  congr 1
  funext formula
  cases formula.clauses.isEmpty <;> rfl

lemma conclude_ofList (clauses : List Clause) :
    conclude ⟨ofList clauses, none⟩ = gathered clauses := by
  have none : (ofList clauses).clauses.isEmpty ↔ clauses = [] := by
    rw [Array.isEmpty_iff, ← Array.toList_eq_nil_iff, clauses_ofList]
  show ite _ _ _ = ite _ _ _
  simp only [none]

lemma settles_iff {clauses : List Clause} {number : Nat} {line? : Option Line}
    {result : Except Fault Formula} : Settles clauses number line? result ↔
      ∃ reading, EndsAt visit number (ofList clauses) line? reading ∧
        conclude reading = result := by
  constructor
  · intro h
    cases h with
    | unreadable => exact ⟨_, .unreadable, rfl⟩
    | @ending line ends =>
      cases line with
      | unreadable => contradiction
      | text content =>
        exact ⟨_, .stops ((visit_eq_stop_iff _ _).mpr ⟨ends, rfl⟩), conclude_ofList clauses⟩
    | @faulty line fault clauseLine blamed =>
      cases line with
      | unreadable => contradiction
      | text content =>
        exact ⟨_, .fails ((visit_eq_fail_iff _ _).mpr ⟨clauseLine, blamed, rfl⟩), rfl⟩
    | complete => exact ⟨_, .complete, conclude_ofList clauses⟩
  · rintro ⟨reading, ends, rfl⟩
    cases ends with
    | complete =>
      rw [conclude_ofList]
      exact .complete
    | unreadable => exact .unreadable
    | stops stop =>
      obtain ⟨ending, rfl⟩ := (visit_eq_stop_iff _ _).mp stop
      rw [conclude_ofList]
      exact .ending ending
    | fails fail =>
      obtain ⟨clauseLine, blamed, -⟩ := (visit_eq_fail_iff _ _).mp fail
      exact .faulty clauseLine blamed

/-- A source in front of which a line settles the formula is not read any further. -/
lemma not_passes_of_settlesFormula {lines : List Line} (h : ∃ line ∈ lines, line.SettlesFormula)
    {number : Nat} {formula : Formula} (formula' : Formula) :
    ¬ Passes visit number formula lines formula' := by
  intro passes
  obtain ⟨line, mem, settles⟩ := h
  exact (gathers_of_passes passes).1 line mem settles

/-- **What the reader of clauses accepts, and what it blames.**  The outcome is that of the first
line that settles the formula, given the clauses in front of it; and whatever comes behind that
line does not matter. -/
theorem read_settled_by_first_line :
    (∀ source result, (read source).outcome = result ↔
      ∃ k clauses, (∀ line ∈ source.lines.take k, ¬ line.SettlesFormula) ∧
        Gathers (source.lines.take k) clauses ∧
        Settles clauses (k + 1) source.lines[k]? result) ∧
    ∀ front, (∃ line ∈ (Source.after front .empty).lines, line.SettlesFormula) →
      ∀ rest rest', read (.after front rest) = read (.after front rest') := by
  refine ⟨fun source result => ?_, fun front settled rest rest' => ?_⟩
  · rw [read_outcome]
    constructor
    · rintro rfl
      obtain ⟨k, formula, passes, ends⟩ := exists_passes visit 1 empty source.lines
      obtain ⟨unsettled, clauses, gathers, rfl⟩ := gathers_of_passes passes
      rw [Nat.add_comm] at ends
      exact ⟨k, clauses, unsettled, gathers, settles_iff.mpr ⟨_, ends, rfl⟩⟩
    · rintro ⟨k, clauses, unsettled, gathers, settles⟩
      obtain ⟨reading, ends, rfl⟩ := settles_iff.mp settles
      rw [Nat.add_comm] at ends
      have passes := passes_of_gathers unsettled gathers 1 empty
      exact congrArg conclude (passes.visitLines_eq ends)
  · have same : (Source.after front rest).read visit empty =
        (Source.after front rest').read visit empty :=
      Source.read_after (not_passes_of_settlesFormula settled) rest rest'
    rw [read, read, same]

/-- Behind the line with `%` there may be anything, and the source may break off.  In the other
source the fifth line is blamed for the word in front of the 0, not for the one behind it; the third
line has a comment that is no clause, and is passed over. -/
theorem read_settled_by_ending :
    let front := encodeUtf8 "c two clauses\n 1 -2 0\n\n+3 00\n % "
    let junk : Source := ⟨[0xFF, newline, 0x31], .broken⟩
    let faulty := Source.ofText "1 -2 0\n\ncomment 0 0\n+3 00\n4 x 0 y\n%\n"
    (∃ line ∈ (Source.after front .empty).lines, line.SettlesFormula) ∧
      (read (.after front junk)).outcome = .ok ⟨#[⟨[⟨1⟩, ⟨-2⟩]⟩, ⟨[⟨3⟩]⟩], 3⟩ ∧
      ∃ k clauses, (∀ line ∈ faulty.lines.take k, ¬ line.SettlesFormula) ∧
        Gathers (faulty.lines.take k) clauses ∧
        Settles clauses (k + 1) faulty.lines[k]? (.error (.badWord "x" 5)) := by
  intro front junk faulty
  have settled : ∃ line ∈ (Source.after front .empty).lines, line.SettlesFormula :=
    ⟨.text " % \n", by decide, .inr (.inl rfl)⟩
  obtain ⟨accepts, unseen⟩ := read_settled_by_first_line
  refine ⟨settled, ?_, (accepts faulty _).mp rfl⟩
  rw [unseen front settled junk .empty]
  rfl

end Formula

end AxiomPinpointing
