import AxiomPinpointing.Proofs.Encoding

/-!
# What is odd about an encoding, by policy

The warnings about the assumptions and the query do not depend on how hard clauses are weighed.
Only the last warning does, and it has the same occasion under both policies: that there are **more
assumptions than variables**.  The policy that looks at variables only then chooses a weight that is
too low, and the dominant one chooses a weight that is higher than usual; either is said.

* `oddities_eq` — the warnings of an encoding, with the occasion of the last one.
* `hardWeight_of_few` — where there is no such occasion, both policies choose the same weight.
-/

namespace AxiomPinpointing

/-- What is odd about the assumptions and the query. -/
def inputOddities (layout : AssumptionLayout) (topVar : UInt64) (assumptions : List Literal)
    (query : Literal) : List Warning :=
  (if assumptions.isEmpty then [.noAssumptions layout] else [])
    ++ (if topVar < query.var then [.queryBeyond query topVar] else [])
    ++ (assumptions.filter (topVar < ·.var)).map (.assumptionBeyond · topVar)

/-- What is odd about a hard weight if there are more assumptions than variables. -/
def WeightPolicy.oddity (topVar hardWeight softWeight : UInt64) : WeightPolicy → Warning
  | .topVar => .weightDominated hardWeight softWeight
  | .dominant => .weightRaised hardWeight topVar

namespace Encoding

section Oddities

variable (settings : Settings) {formula : Formula} {assumptions : List Literal} {query : Literal}

/-- The weight is higher than usual exactly if there are more assumptions than variables, and the
policy takes them into account. -/
lemma succ_lt_hardWeight_iff (low : formula.topVar.toNat < 2 ^ 64 - 1)
    (few : assumptions.length < 2 ^ 64 - 1) :
    formula.topVar + 1 < hardWeight settings formula assumptions ↔
      settings.weight.value = .dominant ∧ formula.topVar.toNat < assumptions.length := by
  rw [UInt64.lt_iff_toNat_lt, toNat_succ_word low, toNat_hardWeight settings low few]
  cases settings.weight.value with
  | topVar => simp [WeightPolicy.exactWeight]
  | dominant =>
    simp only [WeightPolicy.exactWeight, true_and]
    omega

/-- The weight is too low exactly if there are more assumptions than variables, and the policy does
not take them into account. -/
lemma hardWeight_le_softWeight_iff (low : formula.topVar.toNat < 2 ^ 64 - 1)
    (few : assumptions.length < 2 ^ 64 - 1) :
    hardWeight settings formula assumptions ≤ assumptions.length.toUInt64 * softUnit ↔
      settings.weight.value = .topVar ∧ formula.topVar.toNat < assumptions.length := by
  have count := toNat_toUInt64_of_lt (n := assumptions.length) (by omega)
  rw [UInt64.le_iff_toNat_le, softUnit, UInt64.mul_one, count, toNat_hardWeight settings low few]
  cases settings.weight.value with
  | topVar =>
    simp only [WeightPolicy.exactWeight, true_and]
    omega
  | dominant =>
    simp only [WeightPolicy.exactWeight, reduceCtorEq, false_and, iff_false]
    omega

/-- **The warnings of an encoding**: those about its inputs, and one about its weights if there are
more assumptions than variables. -/
lemma oddities_eq (low : formula.topVar.toNat < 2 ^ 64 - 1)
    (few : assumptions.length < 2 ^ 64 - 1) :
    oddities settings formula assumptions query =
      inputOddities settings.layout.value formula.topVar assumptions query ++
        if formula.topVar.toNat < assumptions.length then
          [settings.weight.value.oddity formula.topVar (hardWeight settings formula assumptions)
            assumptions.length.toUInt64]
        else [] := by
  have raised := succ_lt_hardWeight_iff settings low few
  have dominated := hardWeight_le_softWeight_iff settings low few
  rw [oddities, warningsOf, inputOddities, List.append_assoc _ (ite _ _ _) (ite _ _ _)]
  congr 1
  simp only [raised, dominated]
  by_cases more : formula.topVar.toNat < assumptions.length
  · cases policy : settings.weight.value <;> simp [more, WeightPolicy.oddity, softUnit]
  · simp [more]

/-- Without more assumptions than variables, the weight is the usual one. -/
lemma hardWeight_of_few (low : formula.topVar.toNat < 2 ^ 64 - 1)
    (few : assumptions.length ≤ formula.topVar.toNat) :
    hardWeight settings formula assumptions = formula.topVar + 1 := by
  refine UInt64.toNat_inj.mp ?_
  rw [toNat_hardWeight settings low (by omega), toNat_succ_word low]
  cases settings.weight.value with
  | topVar => rfl
  | dominant =>
    simp only [WeightPolicy.exactWeight]
    omega

end Oddities

end Encoding

end AxiomPinpointing
