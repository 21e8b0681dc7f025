import AxiomPinpointing.Clause

/-!
# Weighted formulas

An instance of weighted partial MaxSAT: a list of clauses with weights, together with the weight
that makes a clause **hard**.  A solver has to satisfy the hard clauses, and among the assignments
that do, looks for one that falsifies soft clauses of the least total weight.

Clauses carry no tag: whether a clause is hard is read off its weight, by comparing it with the hard
weight of the formula.  So a clause that was added as soft is hard nevertheless if its weight is
large enough, and moving the hard weight moves the border between the two.

* `WeightedFormula.add`, `WeightedFormula.addHard` — add a clause.
* `WeightedFormula.hard`, `WeightedFormula.soft` — the two sides of the border.
* `WeightedFormula.softTotal` — what the soft clauses weigh together.
* `WeightedFormula.text` — the written form: a problem line, and a line per clause.
-/

namespace AxiomPinpointing

structure WeightedClause where
  weight : UInt64
  clause : Clause
deriving DecidableEq

/-- The line on which a clause is written: its weight, its literals, and the terminator. -/
def WeightedClause.line (weighted : WeightedClause) : String :=
  s!"{weighted.weight.toNat} {weighted.clause.terminated}\n"

/-- An instance of weighted partial MaxSAT. -/
structure WeightedFormula where
  topVar : UInt64
  /-- The weight from which on a clause is hard. -/
  hardWeight : UInt64
  clauses : Array WeightedClause := #[]
deriving DecidableEq

namespace WeightedFormula

def size (formula : WeightedFormula) : Nat :=
  formula.clauses.size

/-- Adds a clause with a weight of its own. -/
def add (formula : WeightedFormula) (weighted : WeightedClause) : WeightedFormula :=
  { formula with clauses := formula.clauses.push weighted }

/-- Adds a clause with the hard weight. -/
def addHard (formula : WeightedFormula) (clause : Clause) : WeightedFormula :=
  formula.add ⟨formula.hardWeight, clause⟩

/-! ## The border between hard and soft -/

/-- Holds of the clauses that have to be satisfied. -/
def isHard (formula : WeightedFormula) (weighted : WeightedClause) : Bool :=
  formula.hardWeight ≤ weighted.weight

/-- The clauses that have to be satisfied, in order. -/
def hard (formula : WeightedFormula) : List Clause :=
  (formula.clauses.toList.filter formula.isHard).map WeightedClause.clause

/-- The other clauses, in order and with their weights. -/
def soft (formula : WeightedFormula) : List WeightedClause :=
  formula.clauses.toList.filter (!formula.isHard ·)

theorem hard_add (formula : WeightedFormula) (weighted : WeightedClause) :
    (formula.add weighted).hard =
      formula.hard ++ if formula.isHard weighted then [weighted.clause] else [] := by
  have same : (formula.add weighted).isHard = formula.isHard := rfl
  unfold hard
  rw [same]
  by_cases h : formula.isHard weighted <;> simp [add, h]

theorem soft_add (formula : WeightedFormula) (weighted : WeightedClause) :
    (formula.add weighted).soft =
      formula.soft ++ if formula.isHard weighted then [] else [weighted] := by
  have same : (formula.add weighted).isHard = formula.isHard := rfl
  unfold soft
  rw [same]
  by_cases h : formula.isHard weighted <;> simp [add, h]

/-- Clauses that are added one after the other stand side by side. -/
theorem foldl_add (clauses : List WeightedClause) (formula : WeightedFormula) :
    clauses.foldl add formula =
      { formula with clauses := formula.clauses ++ clauses.toArray } := by
  induction clauses generalizing formula with
  | nil => simp
  | cons weighted clauses ih =>
    rw [List.foldl_cons, ih]
    simp [add]

/-- The total weight of the soft clauses. -/
def softTotal (formula : WeightedFormula) : UInt64 :=
  (formula.soft.map WeightedClause.weight).foldl (· + ·) 0

/-! ## Writing -/

/-- The problem line: greatest variable, number of clauses, hard weight. -/
def problemLine (formula : WeightedFormula) : String :=
  s!"p wcnf {formula.topVar.toNat} {formula.size} {formula.hardWeight.toNat}\n"

/-- **The written form.** -/
def text (formula : WeightedFormula) : String :=
  formula.problemLine ++ String.join (formula.clauses.toList.map WeightedClause.line)

end WeightedFormula

end AxiomPinpointing
