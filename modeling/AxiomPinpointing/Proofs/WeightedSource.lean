import AxiomPinpointing.Proofs.BlankRuns
import AxiomPinpointing.Proofs.LineNumbers
import AxiomPinpointing.Proofs.WeightedText

/-!
# What the reader of weighted formulas accepts

Without blank lines and comments a source is a list of rows that **count**.  They have to be a
problem line and then, for each clause that it announces, a weight and the words of the clause
(`WeightedFormula.SpelledBy`).  Otherwise the first line is to blame with which the rows stop being
the beginning of such a list (`WeightedFormula.LineFault`), or else the number of rows is.

Lines that do not count only move the others down.  So a fault behind them has another line number,
and nothing else changes (`WeightedFormula.read_insert`).
-/

namespace AxiomPinpointing

open Text

/-! ## The rows that count -/

/-- Holds of words that are there and are no comment. -/
def counts (ws : List String) : Bool :=
  !ws.isEmpty && ws.head? != some "c"

/-- The words of the lines that are neither blank nor comments. -/
def countedRows (lines : List Line) : List (List String) :=
  (lines.map Line.words).filter counts

lemma counts_cons_iff {word : String} {rest : List String} :
    counts (word :: rest) = true ↔ word ≠ "c" := by
  simp [counts]

lemma countedRows_cons_of_counts {content : String} (h : counts (words content) = true)
    (lines : List Line) :
    countedRows (.text content :: lines) = words content :: countedRows lines :=
  List.filter_cons_of_pos h

lemma countedRows_cons_of_not_counts {content : String} (h : ¬ counts (words content) = true)
    (lines : List Line) : countedRows (.text content :: lines) = countedRows lines :=
  List.filter_cons_of_neg h

/-! ## Rows of weighted formulas -/

/-- Holds if some words are a weight and then the words of a clause. -/
def WeightedClause.SpelledBy (ws : List String) (weighted : WeightedClause) : Prop :=
  ∃ word rest, ws = word :: rest ∧ unsigned64? word = some weighted.weight ∧
    Clause.SpelledBy rest weighted.clause

namespace WeightedFormula

/-- Holds if some words are a problem line with these numbers. -/
def ProblemRow (ws : List String) (topVar count hardWeight : UInt64) : Prop :=
  ∃ top number hard, ws = ["p", "wcnf", top, number, hard] ∧ unsigned64? top = some topVar ∧
    unsigned64? number = some count ∧ unsigned64? hard = some hardWeight

/-- **The rows of a weighted formula**: a problem line, and as many clauses as it announces. -/
def SpelledBy (rows : List (List String)) (formula : WeightedFormula) : Prop :=
  ∃ problem rest count, rows = problem :: rest ∧
    ProblemRow problem formula.topVar count formula.hardWeight ∧
    List.Forall₂ WeightedClause.SpelledBy rest formula.clauses.toList ∧ count.toNat = rest.length

/-- Holds of the rows behind which a formula can go on: there are none, or a problem line and then
clauses. -/
def InOrder (rows : List (List String)) : Prop :=
  rows = [] ∨ ∃ problem rest topVar count hardWeight clauses, rows = problem :: rest ∧
    ProblemRow problem topVar count hardWeight ∧ List.Forall₂ WeightedClause.SpelledBy rest clauses

/-- Holds if there is no problem line, or not the number of clauses that it announces. -/
def Miscounts (rows : List (List String)) : Prop :=
  rows = [] ∨ ∃ problem rest topVar count hardWeight, rows = problem :: rest ∧
    ProblemRow problem topVar count hardWeight ∧ count.toNat ≠ rest.length

/-- What can be wrong with a line, depending on whether the problem line has come. -/
inductive LineFault (begun : Prop) (number : Nat) : Line → Fault → Prop
  | unreadable : LineFault begun number .unreadable (.unreadableLine number)
  | noProblem {line : Line} (notYet : ¬ begun) (counted : counts line.words)
      (other : ∀ topVar count hardWeight, ¬ ProblemRow line.words topVar count hardWeight) :
      LineFault begun number line .problemLine
  | second {line : Line} {rest : List String} (already : begun) (split : line.words = "p" :: rest) :
      LineFault begun number line .problemLine
  | badWeight {line : Line} {word : String} {rest : List String} (already : begun)
      (split : line.words = word :: rest) (noComment : word ≠ "c") (noProblem : word ≠ "p")
      (unread : unsigned64? word = none) : LineFault begun number line (.badWord word number)
  | badClause {line : Line} {word : String} {rest : List String} {weight : UInt64} {fault : Fault}
      (already : begun) (split : line.words = word :: rest)
      (weighs : unsigned64? word = some weight) (blamed : Clause.Blames number rest fault) :
      LineFault begun number line fault

lemma lineFault_unreadable_iff {begun : Prop} {number : Nat} (fault : Fault) :
    LineFault begun number .unreadable fault ↔ fault = .unreadableLine number := by
  constructor
  · rintro (_ | ⟨-, counted, -⟩ | ⟨-, split⟩ | ⟨-, split, -⟩ | ⟨-, split, -⟩)
    · rfl
    all_goals contradiction
  · rintro rfl
    exact .unreadable

/-! ## One row -/

section Rows

variable {number : Nat} {ws rest : List String} {word : String} {weighted : WeightedClause}
  {fault : Fault}

lemma ofProblem?_eq_some_iff {start : Draft} : Draft.ofProblem? ws = some start ↔
    ∃ topVar count hardWeight, ProblemRow ("p" :: ws) topVar count hardWeight ∧
      start = ⟨count, ⟨topVar, hardWeight, #[]⟩⟩ := by
  constructor
  · intro h
    rw [Draft.ofProblem?.eq_def] at h
    split at h
    next top number hard =>
      simp only [bind, Option.bind_eq_some_iff] at h
      obtain ⟨topVar, isTop, count, isCount, hardWeight, isHard, h⟩ := h
      exact ⟨topVar, count, hardWeight, ⟨top, number, hard, rfl, isTop, isCount, isHard⟩,
        (Option.some.inj h).symm⟩
    next => contradiction
  · rintro ⟨topVar, count, hardWeight, ⟨top, number, hard, split, isTop, isCount, isHard⟩, rfl⟩
    rw [(List.cons.inj split).2, Draft.ofProblem?, isTop, isCount, isHard]
    rfl

lemma ProblemRow.count_eq {topVar topVar' count count' hardWeight hardWeight' : UInt64}
    (h : ProblemRow ws topVar count hardWeight) (h' : ProblemRow ws topVar' count' hardWeight') :
    count = count' := by
  obtain ⟨_, _, _, rfl, -, isCount, -⟩ := h
  obtain ⟨_, _, _, same, -, isCount', -⟩ := h'
  simp only [List.cons.injEq, true_and] at same
  rw [same.2.1] at isCount
  exact Option.some.inj (isCount.symm.trans isCount')

lemma clauseOfWords_eq_ok_iff : clauseOfWords number word rest = .ok weighted ↔
    weighted.SpelledBy (word :: rest) := by
  rw [clauseOfWords]
  constructor
  · intro h
    split at h
    next => contradiction
    next weight weighs =>
      obtain ⟨clause, spelled, rfl⟩ := map_eq_ok.mp h
      exact ⟨word, rest, rfl, weighs, Clause.ofWords_eq_ok_iff.mp spelled⟩
  · rintro ⟨word', rest', split, weighs, spelled⟩
    obtain ⟨rfl, rfl⟩ := List.cons.inj split
    rw [weighs]
    exact map_eq_ok.mpr ⟨_, spelled.ofWords number, rfl⟩

lemma clauseOfWords_eq_error_iff : clauseOfWords number word rest = .error fault ↔
    (unsigned64? word = none ∧ .badWord word number = fault) ∨
      ∃ weight, unsigned64? word = some weight ∧ Clause.Blames number rest fault := by
  rw [clauseOfWords]
  cases unsigned64? word with
  | none => simp
  | some weight => simp [map_eq_error, Clause.ofWords_eq_error_iff]

/-- A weight is neither a comment nor the beginning of a problem line. -/
lemma ne_of_unsigned64? {weight : UInt64} (h : unsigned64? word = some weight) :
    word ≠ "c" ∧ word ≠ "p" := by
  constructor
  · rintro rfl
    contradiction
  · rintro rfl
    contradiction

lemma counts_of_spelledBy (h : weighted.SpelledBy ws) : counts ws = true := by
  obtain ⟨word, rest, rfl, weighs, -⟩ := h
  exact counts_cons_iff.mpr (ne_of_unsigned64? weighs).1

lemma counts_of_problemRow {topVar count hardWeight : UInt64}
    (h : ProblemRow ws topVar count hardWeight) : counts ws = true := by
  obtain ⟨_, _, _, rfl, -⟩ := h
  rfl

end Rows

/-! ## One line -/

/-- What a row adds to what has been read: the problem line, if it is the first row that counts, and
a clause behind the problem line. -/
inductive Takes : Option Draft → List String → Option Draft → Prop
  | problem {ws : List String} {topVar count hardWeight : UInt64}
      (row : ProblemRow ws topVar count hardWeight) :
      Takes none ws (some ⟨count, ⟨topVar, hardWeight, #[]⟩⟩)
  | clause {ws : List String} {weighted : WeightedClause} (draft : Draft)
      (spelled : weighted.SpelledBy ws) : Takes (some draft) ws (some (draft.add weighted))

section Visits

variable {number : Nat} {content word : String} {rest : List String} {fault : Fault}
  {draft? draft?' : Option Draft}

lemma visit_of_not_counts (h : ¬ counts (words content) = true) (draft? : Option Draft) :
    visit number content draft? = .next draft? := by
  rw [visit.eq_def]
  cases split : words content with
  | nil => rfl
  | cons word rest =>
    rw [split, counts_cons_iff, not_not] at h
    subst h
    rfl

lemma visit_problem (split : words content = "p" :: rest) : visit number content none =
    match Draft.ofProblem? rest with
    | some start => .next (some start)
    | none => .fail .problemLine none := by
  rw [visit.eq_def, split]
  rfl

lemma visit_second (split : words content = "p" :: rest) (draft : Draft) :
    visit number content (some draft) = .fail .problemLine (some draft) := by
  rw [visit.eq_def, split]
  rfl

lemma visit_early (split : words content = word :: rest) (noComment : word ≠ "c")
    (noProblem : word ≠ "p") : visit number content none = .fail .problemLine none := by
  rw [visit.eq_def, split]
  simp_all

lemma Takes.visit (h : Takes draft? (words content) draft?') :
    visit number content draft? = .next draft?' := by
  generalize split : words content = ws at h
  cases h with
  | problem row =>
    obtain ⟨top, count, hard, rfl, -⟩ := id row
    rw [visit_problem split, ofProblem?_eq_some_iff.mpr ⟨_, _, _, row, rfl⟩]
  | clause draft spelled =>
    obtain ⟨word, rest, rfl, weighs, -⟩ := id spelled
    obtain ⟨noComment, noProblem⟩ := ne_of_unsigned64? weighs
    rw [visit_of_words split noComment noProblem, clauseOfWords_eq_ok_iff.mpr spelled]
    rfl

lemma LineFault.visit (h : LineFault draft?.isSome number (.text content) fault) :
    visit number content draft? = .fail fault draft? := by
  cases draft? with
  | none =>
    obtain _ | ⟨-, counted, other⟩ | ⟨already⟩ | ⟨already⟩ | ⟨already⟩ := h
    · have counted : counts (words content) = true := counted
      obtain ⟨word, rest, split⟩ := List.exists_cons_of_ne_nil (show words content ≠ [] by
        intro none
        simp [none, counts] at counted)
      rw [split, counts_cons_iff] at counted
      by_cases problem : word = "p"
      · subst problem
        rw [visit_problem split]
        cases started : Draft.ofProblem? rest with
        | none => rfl
        | some start =>
          obtain ⟨_, _, _, row, -⟩ := ofProblem?_eq_some_iff.mp started
          exact absurd (split ▸ row) (other _ _ _)
      · exact visit_early split counted problem
    all_goals contradiction
  | some draft =>
    cases h with
    | noProblem notYet => exact absurd rfl notYet
    | second _ split => exact visit_second split draft
    | badWeight _ split noComment noProblem unread =>
      rw [visit_of_words split noComment noProblem,
        clauseOfWords_eq_error_iff.mpr (.inl ⟨unread, rfl⟩)]
      rfl
    | badClause _ split weighs blamed =>
      obtain ⟨noComment, noProblem⟩ := ne_of_unsigned64? weighs
      rw [visit_of_words split noComment noProblem,
        clauseOfWords_eq_error_iff.mpr (.inr ⟨_, weighs, blamed⟩)]
      rfl

/-- **A line does not count, or it is taken, or it is at fault.** -/
lemma takes_or_lineFault (number : Nat) (content : String) (draft? : Option Draft) :
    ¬ counts (words content) = true ∨ (∃ draft?', Takes draft? (words content) draft?') ∨
      ∃ fault, LineFault draft?.isSome number (.text content) fault := by
  by_cases counted : counts (words content) = true
  case neg => exact .inl counted
  refine .inr ?_
  cases draft? with
  | none =>
    by_cases problem : ∃ topVar count hardWeight,
      ProblemRow (words content) topVar count hardWeight
    · obtain ⟨_, _, _, row⟩ := problem
      exact .inl ⟨_, .problem row⟩
    · push Not at problem
      exact .inr ⟨_, .noProblem (by simp) counted problem⟩
  | some draft =>
    cases split : words content with
    | nil => simp [split, counts] at counted
    | cons word rest =>
      rw [split, counts_cons_iff] at counted
      by_cases problem : word = "p"
      · subst problem
        exact .inr ⟨_, .second rfl split⟩
      · cases read : clauseOfWords number word rest with
        | ok weighted => exact .inl ⟨_, .clause draft (clauseOfWords_eq_ok_iff.mp read)⟩
        | error fault =>
          rcases clauseOfWords_eq_error_iff.mp read with ⟨unread, rfl⟩ | ⟨weight, weighs, blamed⟩
          · exact .inr ⟨_, .badWeight rfl split counted problem unread⟩
          · exact .inr ⟨_, .badClause rfl split weighs blamed⟩

variable (number content draft?) in
/-- **What becomes of a line**, in all cases. -/
lemma visit_iff :
    (∀ draft?', visit number content draft? = .next draft?' ↔
      (¬ counts (words content) = true ∧ draft?' = draft?) ∨
        Takes draft? (words content) draft?') ∧
    (∀ fault draft?', visit number content draft? = .fail fault draft?' ↔
      LineFault draft?.isSome number (.text content) fault ∧ draft?' = draft?) ∧
    ∀ draft?', visit number content draft? ≠ .stop draft?' := by
  refine Step.iff_of_known ?_ LineFault.visit ?_
  · rintro draft?' (⟨uncounted, rfl⟩ | takes)
    · exact visit_of_not_counts uncounted _
    · exact takes.visit
  · rcases takes_or_lineFault number content draft? with
      uncounted | ⟨draft?', takes⟩ | faulty
    · exact .inl ⟨draft?, .inl ⟨uncounted, rfl⟩⟩
    · exact .inl ⟨draft?', .inr takes⟩
    · exact .inr faulty

end Visits

/-! ## All lines -/

/-- What rows add one after the other. -/
inductive TakesAll : Option Draft → List (List String) → Option Draft → Prop
  | nil (draft? : Option Draft) : TakesAll draft? [] draft?
  | cons {draft? draft?' draft?'' : Option Draft} {ws : List String} {rows : List (List String)}
      (first : Takes draft? ws draft?') (rest : TakesAll draft?' rows draft?'') :
      TakesAll draft? (ws :: rows) draft?''

section Runs

variable {number : Nat} {lines : List Line} {rows : List (List String)} {draft : Draft}
  {draft? draft?' : Option Draft}

lemma Takes.counts {ws : List String} (h : Takes draft? ws draft?') : counts ws = true := by
  cases h with
  | problem row => exact counts_of_problemRow row
  | clause _ spelled => exact counts_of_spelledBy spelled

/-- **The lines that are passed** are those whose rows are taken. -/
lemma passes_iff : Passes visit number draft? lines draft?' ↔
    .unreadable ∉ lines ∧ TakesAll draft? (countedRows lines) draft?' := by
  induction lines generalizing number draft? with
  | nil =>
    rw [passes_nil_iff]
    constructor
    · rintro rfl
      exact ⟨List.not_mem_nil, .nil draft?'⟩
    · rintro ⟨-, ⟨⟩⟩
      rfl
  | cons line lines ih =>
    cases line with
    | unreadable => simp [not_passes_unreadable]
    | text content =>
      simp only [passes_text_iff, (visit_iff number content draft?).1, ih, List.mem_cons,
        reduceCtorEq, false_or]
      by_cases counted : counts (words content) = true
      · rw [countedRows_cons_of_counts counted]
        constructor
        · rintro ⟨after, ⟨uncounted, -⟩ | takes, readable, rest⟩
          · contradiction
          · exact ⟨readable, .cons takes rest⟩
        · rintro ⟨readable, ⟨⟩⟩
          exact ⟨_, .inr ‹_›, readable, ‹_›⟩
      · rw [countedRows_cons_of_not_counts counted]
        constructor
        · rintro ⟨after, ⟨-, rfl⟩ | takes, readable, rest⟩
          · exact ⟨readable, rest⟩
          · exact absurd takes.counts counted
        · rintro ⟨readable, rest⟩
          exact ⟨draft?, .inl ⟨counted, rfl⟩, readable, rest⟩

/-- Behind the problem line all rows are clauses. -/
lemma takesAll_some_iff : TakesAll (some draft) rows draft?' ↔
    ∃ clauses, List.Forall₂ WeightedClause.SpelledBy rows clauses ∧
      draft?' = some (clauses.foldl Draft.add draft) := by
  constructor
  · intro h
    -- The draft grows from row to row, so the induction is over all of them.
    generalize start : some draft = draft? at h
    induction h generalizing draft with
    | nil => exact ⟨[], .nil, start.symm⟩
    | cons first rest ih =>
      cases first with
      | problem => contradiction
      | clause _ spelled =>
        obtain rfl := Option.some.inj start
        obtain ⟨clauses, all, rfl⟩ := ih rfl
        exact ⟨_ :: clauses, .cons spelled all, rfl⟩
  · rintro ⟨clauses, all, rfl⟩
    induction all generalizing draft with
    | nil => exact .nil _
    | cons spelled _ ih => exact .cons (.clause draft spelled) ih

lemma takesAll_none_iff : TakesAll none rows draft?' ↔
    (rows = [] ∧ draft?' = none) ∨
      ∃ problem rest topVar count hardWeight clauses, rows = problem :: rest ∧
        ProblemRow problem topVar count hardWeight ∧
        List.Forall₂ WeightedClause.SpelledBy rest clauses ∧
        draft?' = some ⟨count, ⟨topVar, hardWeight, clauses.toArray⟩⟩ := by
  have gathered : ∀ (clauses : List WeightedClause) (count topVar hardWeight : UInt64),
      clauses.foldl Draft.add ⟨count, ⟨topVar, hardWeight, #[]⟩⟩ =
        ⟨count, ⟨topVar, hardWeight, clauses.toArray⟩⟩ := fun clauses count topVar hardWeight => by
    rw [Draft.foldl_add, foldl_add]
    simp
  constructor
  · rintro (_ | ⟨⟨row⟩, rest⟩)
    · exact .inl ⟨rfl, rfl⟩
    · obtain ⟨clauses, all, rfl⟩ := takesAll_some_iff.mp rest
      rw [gathered]
      exact .inr ⟨_, _, _, _, _, clauses, rfl, row, all, rfl⟩
  · rintro (⟨rfl, rfl⟩ | ⟨problem, rest, topVar, count, hardWeight, clauses, rfl, row, all, rfl⟩)
    · exact .nil none
    · refine .cons (.problem row) (takesAll_some_iff.mpr ⟨clauses, all, ?_⟩)
      rw [gathered]

end Runs

lemma exists_takesAll_none_iff {rows : List (List String)} :
    (∃ draft?, TakesAll none rows draft?) ↔ InOrder rows := by
  simp only [takesAll_none_iff]
  constructor
  · rintro ⟨_, ⟨none, -⟩ | ⟨problem, rest, topVar, count, hardWeight, clauses, split, row, all, -⟩⟩
    · exact .inl none
    · exact .inr ⟨problem, rest, topVar, count, hardWeight, clauses, split, row, all⟩
  · rintro (none | ⟨problem, rest, topVar, count, hardWeight, clauses, split, row, all⟩)
    · exact ⟨_, .inl ⟨none, rfl⟩⟩
    · exact ⟨_, .inr ⟨problem, rest, topVar, count, hardWeight, clauses, split, row, all, rfl⟩⟩

lemma isSome_of_takesAll {rows : List (List String)} {draft? : Option Draft}
    (h : TakesAll none rows draft?) : draft?.isSome = true ↔ rows ≠ [] := by
  rcases takesAll_none_iff.mp h with ⟨rfl, rfl⟩ | ⟨problem, rest, _, _, _, _, rfl, -, -, rfl⟩
  · simp
  · simp

/-! ## Sources -/

lemma Draft.finish_some_eq_ok_iff {draft : Draft} {formula : WeightedFormula} :
    finish (some draft) = .ok formula ↔
      draft.announced.toNat = draft.formula.size ∧ draft.formula = formula := by
  rw [finish]
  split_ifs with announced <;> simp [announced]

lemma Draft.finish_some_eq_error_iff {draft : Draft} {fault : Fault} :
    finish (some draft) = .error fault ↔
      draft.announced.toNat ≠ draft.formula.size ∧ fault = .problemLine := by
  rw [finish]
  split_ifs with announced <;> simp [announced, eq_comm]

/-- The finished formula is spelled by the rows that were taken. -/
lemma exists_finish_eq_ok_iff {rows : List (List String)} {formula : WeightedFormula} :
    (∃ draft?, TakesAll none rows draft? ∧ Draft.finish draft? = .ok formula) ↔
      SpelledBy rows formula := by
  simp only [takesAll_none_iff]
  constructor
  · rintro ⟨_, ⟨-, rfl⟩ | ⟨problem, rest, topVar, count, hardWeight, clauses, split, row, all, rfl⟩,
      finished⟩
    · contradiction
    · obtain ⟨announced, rfl⟩ := Draft.finish_some_eq_ok_iff.mp finished
      refine ⟨problem, rest, count, split, row, all, announced.trans ?_⟩
      exact all.length_eq.symm
  · rintro ⟨problem, rest, count, split, row, all, announced⟩
    refine ⟨_, .inr ⟨problem, rest, _, count, _, _, split, row, all, rfl⟩, ?_⟩
    exact Draft.finish_some_eq_ok_iff.mpr ⟨announced.trans all.length_eq, rfl⟩

lemma exists_finish_eq_error_iff {rows : List (List String)} {fault : Fault} :
    (∃ draft?, TakesAll none rows draft? ∧ Draft.finish draft? = .error fault) ↔
      InOrder rows ∧ Miscounts rows ∧ fault = .problemLine := by
  constructor
  · rintro ⟨draft?, takes, unfinished⟩
    refine ⟨exists_takesAll_none_iff.mp ⟨draft?, takes⟩, ?_⟩
    rcases takesAll_none_iff.mp takes with ⟨none, rfl⟩ |
      ⟨problem, rest, topVar, count, hardWeight, clauses, split, row, all, rfl⟩
    · exact ⟨.inl none, (Except.error.inj unfinished).symm⟩
    · obtain ⟨miscounted, rfl⟩ := Draft.finish_some_eq_error_iff.mp unfinished
      refine ⟨.inr ⟨problem, rest, topVar, count, hardWeight, split, row, ?_⟩, rfl⟩
      rw [all.length_eq]
      exact miscounted
  · rintro ⟨inOrder, miscounts, rfl⟩
    obtain ⟨draft?, takes⟩ := exists_takesAll_none_iff.mpr inOrder
    refine ⟨draft?, takes, ?_⟩
    rcases takesAll_none_iff.mp takes with ⟨-, rfl⟩ |
      ⟨problem, rest, topVar, count, hardWeight, clauses, split, row, all, rfl⟩
    · rfl
    · refine Draft.finish_some_eq_error_iff.mpr ⟨?_, rfl⟩
      obtain none | ⟨problem', rest', _, count', _, split', row', miscounted⟩ := miscounts
      · exact absurd (split.symm.trans none) (List.cons_ne_nil _ _)
      · obtain ⟨rfl, rfl⟩ := List.cons.inj (split.symm.trans split')
        rw [row.count_eq row']
        exact fun same => miscounted (same.trans all.length_eq.symm)

section Sources

variable {source : Source} {formula : WeightedFormula} {fault : Fault}

lemma read_visit_eq_ok_iff {draft? : Option Draft} :
    (source.read visit none).outcome = .ok draft? ↔
      .unreadable ∉ source.lines ∧ TakesAll none (countedRows source.lines) draft? :=
  (visitLines_outcome_eq_ok_iff fun number content draft? =>
    (visit_iff number content draft?).2.2).trans passes_iff

/-- **What the reader accepts.** -/
lemma read_eq_ok_iff : read source = .ok formula ↔
    .unreadable ∉ source.lines ∧ SpelledBy (countedRows source.lines) formula := by
  simp only [read, bind_eq_ok, read_visit_eq_ok_iff, and_assoc, exists_and_left,
    exists_finish_eq_ok_iff]

lemma read_visit_eq_error_iff : (source.read visit none).outcome = .error fault ↔
    ∃ k line, .unreadable ∉ source.lines.take k ∧ InOrder (countedRows (source.lines.take k)) ∧
      source.lines[k]? = some line ∧
      LineFault (countedRows (source.lines.take k) ≠ []) (k + 1) line fault := by
  have ends_iff : ∀ {number : Nat} {draft? : Option Draft} {line? : Option Line},
      (∃ last, EndsAt visit number draft? line? ⟨last, some fault⟩) ↔
        ∃ line, line? = some line ∧ LineFault draft?.isSome number line fault :=
    exists_endsAt_fault_iff lineFault_unreadable_iff fun content =>
      (visit_iff _ content _).2.1
  rw [Source.read, visitLines_outcome_eq_error_iff]
  constructor
  · rintro ⟨k, draft?, last, passes, ends⟩
    obtain ⟨readable, takes⟩ := passes_iff.mp passes
    obtain ⟨line, here, faulty⟩ := ends_iff.mp ⟨last, ends⟩
    rw [isSome_of_takesAll takes, Nat.add_comm] at faulty
    exact ⟨k, line, readable, exists_takesAll_none_iff.mp ⟨draft?, takes⟩, here, faulty⟩
  · rintro ⟨k, line, readable, inOrder, here, faulty⟩
    obtain ⟨draft?, takes⟩ := exists_takesAll_none_iff.mpr inOrder
    rw [← isSome_of_takesAll takes, Nat.add_comm] at faulty
    obtain ⟨last, ends⟩ := ends_iff.mpr ⟨line, here, faulty⟩
    exact ⟨k, draft?, last, passes_iff.mpr ⟨readable, takes⟩, ends⟩

/-- **What the reader blames.** -/
lemma read_eq_error_iff : read source = .error fault ↔
    (∃ k line, .unreadable ∉ source.lines.take k ∧ InOrder (countedRows (source.lines.take k)) ∧
      source.lines[k]? = some line ∧
      LineFault (countedRows (source.lines.take k) ≠ []) (k + 1) line fault) ∨
    (.unreadable ∉ source.lines ∧ InOrder (countedRows source.lines) ∧
      Miscounts (countedRows source.lines) ∧ fault = .problemLine) := by
  simp only [read, bind_eq_error, read_visit_eq_error_iff, read_visit_eq_ok_iff, and_assoc,
    exists_and_left, exists_finish_eq_error_iff]

end Sources

/-! ## Lines that do not count -/

lemma LineFault.relocated {begun : Prop} {number : Nat} {line : Line} {fault : Fault}
    (h : LineFault begun number line fault) (place : Nat → Nat) :
    LineFault begun (place number) line (fault.relocated place) := by
  cases h with
  | unreadable => exact .unreadable
  | noProblem notYet counted other => exact .noProblem notYet counted other
  | second already split => exact .second already split
  | badWeight already split noComment noProblem unread =>
    exact .badWeight already split noComment noProblem unread
  | badClause already split weighs blamed =>
    exact .badClause already split weighs (blamed.relocated place)

lemma onlyBlames_visit : OnlyBlames visit := by
  intro place number content draft?
  rcases takes_or_lineFault number content draft? with
    uncounted | ⟨draft?', takes⟩ | ⟨fault, faulty⟩
  · rw [visit_of_not_counts uncounted, visit_of_not_counts uncounted]
    rfl
  · rw [takes.visit, takes.visit]
    rfl
  · rw [faulty.visit, (faulty.relocated place).visit]
    rfl

lemma bind_finish_relocated (place : Nat → Nat) (outcome : Except Fault (Option Draft)) :
    outcome.mapError (Fault.relocated place) >>= Draft.finish =
      (outcome >>= Draft.finish).mapError (Fault.relocated place) := by
  cases outcome with
  | error fault => rfl
  | ok draft? =>
    show Draft.finish draft? = (Draft.finish draft?).mapError _
    cases draft? with
    | none => rfl
    | some draft =>
      rw [Draft.finish]
      split_ifs <;> rfl

lemma onlyWords_visit : OnlyWords visit := by
  intro number content content' draft? same
  rw [visit.eq_def, visit.eq_def, words_behindWord, words_behindWord, same]

/-- **Blank lines and comments** only move other lines down, and of these only the words matter. -/
lemma read_insert {source source' : Source} {front others back : List (Option (List String))}
    (split : source.lines.map Line.words? = front ++ back)
    (split' : source'.lines.map Line.words? = front ++ others ++ back)
    (passedOver : ∀ words? ∈ others, ∃ ws, words? = some ws ∧ ¬ counts ws = true) :
    read source' = (read source).mapError
      (Fault.relocated (movedDown front.length others.length)) := by
  have next : ∀ words? ∈ others, ∃ ws, words? = some ws ∧ ∀ number content draft?,
      words content = ws → visit number content draft? = .next draft? := by
    intro words? mem
    obtain ⟨ws, found, uncounted⟩ := passedOver words? mem
    exact ⟨ws, found, fun _ _ draft? same => visit_of_not_counts (same ▸ uncounted) draft?⟩
  rw [read, read, Source.read, visitLines_insert onlyBlames_visit onlyWords_visit split split' next,
    Reading.outcome_relocated, bind_finish_relocated, Source.read]

/-- **What the reader of weighted formulas accepts, and what it blames.**  A source holds a formula
exactly if all of it can be read, and the rows that count are a problem line and then the announced
number of clauses.  Otherwise the first line at fault is blamed, or, if there is none, the number of
rows.  The words of a clause are those behind the first blank behind the weight, whatever blanks
there are; and lines that do not count only move the others. -/
theorem read_rows_that_count :
    (∀ source formula, read source = .ok formula ↔
      .unreadable ∉ source.lines ∧ SpelledBy (countedRows source.lines) formula) ∧
    (∀ source fault, read source = .error fault ↔
      (∃ k line, .unreadable ∉ source.lines.take k ∧
        InOrder (countedRows (source.lines.take k)) ∧ source.lines[k]? = some line ∧
        LineFault (countedRows (source.lines.take k) ≠ []) (k + 1) line fault) ∨
      (.unreadable ∉ source.lines ∧ InOrder (countedRows source.lines) ∧
        Miscounts (countedRows source.lines) ∧ fault = .problemLine)) ∧
    (∀ line, words (behindWord line) = (words line).tail) ∧
    ∀ source source' front others back, source.lines.map Line.words? = front ++ back →
      source'.lines.map Line.words? = front ++ others ++ back →
      (∀ words? ∈ others, ∃ ws, words? = some ws ∧ ¬ counts ws = true) →
      read source' = (read source).mapError
        (Fault.relocated (movedDown front.length others.length)) :=
  ⟨fun _ _ => read_eq_ok_iff, fun _ _ => read_eq_error_iff, words_behindWord,
    fun _ _ _ _ _ => read_insert⟩

/-- With a blank line and a comment behind the problem line the bad weight is on the fifth line and
not on the third; and other blanks on its line do not matter.  In the last source there are a
comment and an empty clause. -/
theorem read_rows_that_count_moved :
    (read (.ofText "p wcnf 2 2 5\n5 1 0\nx -2 0") = .error (.badWord "x" 3) ∧
      read (.ofText "p wcnf 2 2 5\n\nc 0\n5 1 0\n x\t-2  0\n") = .error (.badWord "x" 5)) ∧
    (∃ k line, .unreadable ∉ (Source.ofText "p wcnf 2 2 5\n5 1 0\nx -2 0").lines.take k ∧
      InOrder (countedRows ((Source.ofText "p wcnf 2 2 5\n5 1 0\nx -2 0").lines.take k)) ∧
      (Source.ofText "p wcnf 2 2 5\n5 1 0\nx -2 0").lines[k]? = some line ∧
      LineFault (countedRows ((Source.ofText "p wcnf 2 2 5\n5 1 0\nx -2 0").lines.take k) ≠ [])
        (k + 1) line (.badWord "x" 3)) ∧
    SpelledBy (countedRows (Source.ofText "c\np wcnf 1 1 5\n5 00\n").lines)
      ⟨1, 5, #[⟨5, ⟨[]⟩⟩]⟩ := by
  obtain ⟨accepts, blames, -, inserts⟩ := read_rows_that_count
  have faulty : read (.ofText "p wcnf 2 2 5\n5 1 0\nx -2 0") = .error (.badWord "x" 3) := rfl
  refine ⟨⟨faulty, ?_⟩, ?_, ((accepts _ _).mp rfl).2⟩
  · rw [inserts (.ofText "p wcnf 2 2 5\n5 1 0\nx -2 0") _ [some ["p", "wcnf", "2", "2", "5"]]
      [some [], some ["c", "0"]] [some ["5", "1", "0"], some ["x", "-2", "0"]] rfl rfl
      (by simp [counts]), faulty]
    rfl
  · rcases (blames _ _).mp faulty with atLine | ⟨-, -, -, clash⟩
    · exact atLine
    · contradiction

end WeightedFormula

end AxiomPinpointing
