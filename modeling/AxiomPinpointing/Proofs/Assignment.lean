import AxiomPinpointing.Formula
import AxiomPinpointing.WeightedFormula
import Mathlib

/-!
# Truth assignments

What formulas mean.  An assignment gives every variable a truth value; a literal, a clause and a
formula are true or false under it, and a weighted formula has a **cost**: what the clauses that
come out false weigh together.  Weights are added up as natural numbers here, so that the cost is
exact whatever the words of 64 bits can hold.

* `Literal.holds`, `Clause.holds` — truth under an assignment.
* `WeightedFormula.cost` — the weight of the false clauses.
* `Countermodel` — an assignment under which the clauses are true and the query is not: a proof
  that the query does not follow.
* `holds_opposite` — negation negates, wherever it is defined.
-/

namespace AxiomPinpointing

/-- A truth value for every variable. -/
abbrev Assignment := UInt64 → Bool

namespace Literal

/-- The truth value of a literal. -/
def holds (a : Assignment) (l : Literal) : Bool :=
  if l.value < 0 then !a l.var else a l.var

/-- The one number whose opposite wraps around is the one that has no opposite here. -/
lemma toInt_of_opposite {l denied : Literal} (h : l.opposite = .ok denied) :
    denied.value.toInt = -l.value.toInt := by
  unfold opposite at h
  split_ifs at h with zero min
  obtain rfl := Except.ok.inj h
  have nonmin : l.value.toInt ≠ -2 ^ 63 := fun hv =>
    min (congrArg Literal.mk (Int64.toInt_inj.mp hv))
  have lower := l.value.le_toInt
  have upper := l.value.toInt_lt
  rw [Int64.toInt_neg]
  exact Int.bmod_eq_of_le (by omega) (by omega)

lemma toInt_ne_zero_of_opposite {l denied : Literal} (h : l.opposite = .ok denied) :
    l.value.toInt ≠ 0 := by
  unfold opposite at h
  split_ifs at h with zero min
  intro hv
  exact zero (congrArg Literal.mk (Int64.toInt_inj.mp hv))

/-- **Negation negates.**  The one negative number whose opposite is negative too is the one that
has no opposite here, so that the sign of the result is always the other sign. -/
lemma holds_opposite {l denied : Literal} (h : l.opposite = .ok denied) (a : Assignment) :
    denied.holds a = !l.holds a := by
  have flipped := toInt_of_opposite h
  have nonzero := toInt_ne_zero_of_opposite h
  have var : denied.var = l.var := by
    unfold Literal.var
    rw [flipped, Int.natAbs_neg]
  unfold holds
  rw [var]
  simp only [Int64.lt_iff_toInt_lt, flipped, Int64.toInt_zero]
  by_cases sign : l.value.toInt < 0
  · rw [if_neg (by omega), if_pos sign, Bool.not_not]
  · rw [if_pos (by omega), if_neg sign]

end Literal

/-- The truth value of a clause. -/
def Clause.holds (a : Assignment) (clause : Clause) : Bool :=
  clause.literals.any (Literal.holds a)

@[simp] lemma Clause.holds_unit (a : Assignment) (l : Literal) :
    Clause.holds a ⟨[l]⟩ = l.holds a := by
  simp [Clause.holds]

/-- What a clause costs: its weight if it is false, and nothing if it is true. -/
def WeightedClause.cost (a : Assignment) (weighted : WeightedClause) : Nat :=
  if weighted.clause.holds a then 0 else weighted.weight.toNat

/-- The total weight of the clauses that are false. -/
def WeightedFormula.cost (formula : WeightedFormula) (a : Assignment) : Nat :=
  (formula.clauses.toList.map (WeightedClause.cost a)).sum

/-- Holds of the assignments under which the clauses are true and the query is false. -/
def Countermodel (clauses : List Clause) (query : Literal) (a : Assignment) : Prop :=
  (∀ clause ∈ clauses, clause.holds a) ∧ query.holds a = false

instance (clauses : List Clause) (query : Literal) (a : Assignment) :
    Decidable (Countermodel clauses query a) :=
  inferInstanceAs (Decidable (_ ∧ _))

end AxiomPinpointing
