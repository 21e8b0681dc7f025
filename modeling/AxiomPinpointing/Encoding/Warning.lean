import AxiomPinpointing.Literal
import AxiomPinpointing.Settings

/-!
# Warnings

An encoding may be well formed and still not mean what was intended.  Such encodings are written,
but with warnings.
-/

namespace AxiomPinpointing

inductive Warning where
  /-- There are no assumptions; perhaps the wrong layout was named. -/
  | noAssumptions (layout : AssumptionLayout)
  /-- The query speaks of a variable that the clauses do not have. -/
  | queryBeyond (query : Literal) (topVar : UInt64)
  /-- An assumption speaks of a variable that the clauses do not have. -/
  | assumptionBeyond (assumption : Literal) (topVar : UInt64)
  /-- The hard weight is not the usual one, one more than the greatest variable. -/
  | weightRaised (hardWeight topVar : UInt64)
  /-- The soft clauses together weigh as much as a hard one. -/
  | weightDominated (hardWeight softWeight : UInt64)
deriving DecidableEq

namespace Warning

def message : Warning → String
  | noAssumptions layout => s!"no assumptions read ({Keyword.word layout})"
  | queryBeyond query topVar =>
    s!"query {query} is beyond the top variable {topVar.toNat}"
  | assumptionBeyond assumption topVar =>
    s!"assumption {assumption} is beyond the top variable {topVar.toNat}"
  | weightRaised hardWeight topVar =>
    s!"hard weight raised to {hardWeight.toNat}, above top variable {topVar.toNat}"
  | weightDominated hardWeight softWeight =>
    s!"hard weight {hardWeight.toNat} does not exceed soft weight {softWeight.toNat}"

end Warning

end AxiomPinpointing
