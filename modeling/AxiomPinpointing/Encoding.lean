import AxiomPinpointing.Assumptions
import AxiomPinpointing.Encoding.Warning
import AxiomPinpointing.Formula
import AxiomPinpointing.WeightedFormula

/-!
# Encoding a query

Which of the assumptions, together with the clauses, force the query?  The question is put to a
MaxSAT solver as a weighted formula: the clauses are hard, the **negation of the query** is hard,
and every assumption is a soft clause of weight 1.  The assumptions that a solution falsifies are
what has to be given up to keep the query from following.

For this to work a hard clause has to weigh more than all soft clauses together.  The `dominant`
policy sees to that; under the `topVar` policy it may fail, and then there is a warning.

* `WeightPolicy.weigh` — the weight of hard clauses.
* `warningsOf` — what is odd about an encoding, in a fixed order.
* `weightedFormula` — the clauses, the denied query and the assumptions, with their weights.
* `Encoding.ofFormula` — encodes a formula that is at hand.
* `Encoding.ofSources` — encodes what two sources hold.  The query is negated before anything is
  read, so a query that cannot be negated is reported whatever the sources hold.
-/

namespace AxiomPinpointing

/-! ## The weight of hard clauses -/

/-- The weight of hard clauses, given the greatest variable and the number of soft clauses. -/
def WeightPolicy.weigh (topVar softCount : UInt64) : WeightPolicy → UInt64
  | .topVar => topVar + 1
  | .dominant => max topVar softCount + 1

def softUnit : UInt64 := 1

/-! ## Warnings -/

/-- **What is odd about an encoding**: first about the assumptions as a whole, then about the query,
about each assumption in turn, and about the weights. -/
def warningsOf (layout : AssumptionLayout) (topVar hardWeight : UInt64)
    (assumptions : List Literal) (query : Literal) : List Warning :=
  let softWeight := assumptions.length.toUInt64 * softUnit
  (if assumptions.isEmpty then [.noAssumptions layout] else [])
    ++ (if topVar < query.var then [.queryBeyond query topVar] else [])
    ++ (assumptions.filter (topVar < ·.var)).map (.assumptionBeyond · topVar)
    ++ (if topVar + 1 < hardWeight then [.weightRaised hardWeight topVar] else [])
    ++ (if hardWeight ≤ softWeight then [.weightDominated hardWeight softWeight] else [])

/-! ## The formula to solve -/

/-- The weighted formula: the clauses, the denied query, and the assumptions, in this order. -/
def weightedFormula (formula : Formula) (hardWeight : UInt64) (denied : Literal)
    (assumptions : List Literal) : WeightedFormula :=
  let start : WeightedFormula := { topVar := formula.topVar, hardWeight }
  let withQuery := (formula.clauses.foldl .addHard start).addHard ⟨[denied]⟩
  assumptions.foldl (fun weighted l => weighted.add ⟨softUnit, ⟨[l]⟩⟩) withQuery

/-! ## Encodings -/

/-- A weighted formula for a query, and what is odd about it. -/
structure Encoding where
  formula : WeightedFormula
  /-- What is odd about it. -/
  warnings : List Warning
deriving DecidableEq

namespace Encoding

/-- **Encodes a formula that is at hand.**  All warnings are logged, also when strictness makes the
first of them a fault. -/
def ofFormula (settings : Settings) (formula : Formula) (assumptions : List Literal)
    (query : Literal) : Run Encoding := do
  let denied ← Run.ofExcept query.opposite
  if formula.clauses.isEmpty then Run.fail .noClauses
  else do
    let softCount := assumptions.length.toUInt64
    let hardWeight := settings.weight.value.weigh formula.topVar softCount
    let warnings :=
      warningsOf settings.layout.value formula.topVar hardWeight assumptions query
    Run.tell (warnings.map fun warning => ⟨.warn, .encode, warning.message⟩)
    match settings.strict.value, warnings with
    | true, warning :: _ => Run.fail (.strict warning.message)
    | _, _ => do
      Run.note .info .encode <|
        s!"Encoded {formula.size + 1} hard and {assumptions.length} soft clauses " ++
        s!"with hard weight {hardWeight.toNat}"
      pure ⟨weightedFormula formula hardWeight denied assumptions, warnings⟩

/-- **Encodes what two sources hold.** -/
def ofSources (settings : Settings) (clauses assumptions : Source) (query : Literal) :
    Run Encoding := do
  let _ ← Run.ofExcept query.opposite
  let formula ← Formula.read clauses
  let assumptions ← Assumptions.read settings.layout.value assumptions
  ofFormula settings formula assumptions query

end Encoding

end AxiomPinpointing
