import AxiomPinpointing.Encoding
import Mathlib

/-!
# The weights of an encoding, exactly

Weights and variables are words of 64 bits, and adding words can wrap.  For the formulas that arise
by adding clauses it never does: a literal is a signed word, so a variable is at most `2 ^ 63`, and
with less than `2 ^ 64 - 1` assumptions every weight that an encoding computes is the weight it
means.

* `topVar_ofList_le_iff` — the greatest variable is the least bound of all variables.
* `toNat_weigh` — what hard clauses weigh under either policy.
* `dominated_iff` — the warning about hard clauses that weigh too little says the exact truth.
-/

namespace AxiomPinpointing

/-! ## The greatest variable -/

/-- The greater of two words is at most a third if both are. -/
lemma max_word_le_iff {a b c : UInt64} : max a b ≤ c ↔ a ≤ c ∧ b ≤ c := by
  simp only [UInt64.le_iff_toNat_le, UInt64.toNat_max, max_le_iff]

lemma Literal.var_le (l : Literal) : l.var ≤ UInt64.ofNat (2 ^ 63) := by
  have lower := l.value.le_toInt
  have upper := l.value.toInt_lt
  have small : l.value.toInt.natAbs ≤ 2 ^ 63 := by omega
  rw [UInt64.le_iff_toNat_le, Literal.var, UInt64.toNat_ofNat', UInt64.toNat_ofNat']
  omega

lemma foldl_max_var_le_iff (ls : List Literal) (top bound : UInt64) :
    ls.foldl (fun top l => max top l.var) top ≤ bound ↔
      top ≤ bound ∧ ∀ l ∈ ls, l.var ≤ bound := by
  induction ls generalizing top with
  | nil => simp
  | cons l ls ih => rw [List.foldl_cons, ih, max_word_le_iff, List.forall_mem_cons, and_assoc]

lemma Clause.topVar_le_iff (clause : Clause) (bound : UInt64) :
    clause.topVar ≤ bound ↔ ∀ l ∈ clause.literals, l.var ≤ bound := by
  rw [Clause.topVar, foldl_max_var_le_iff]
  exact and_iff_right (UInt64.le_iff_toNat_le.mpr (Nat.zero_le _))

namespace Formula

lemma clauses_foldl_push (clauses : List Clause) (formula : Formula) :
    (clauses.foldl push formula).clauses.toList = formula.clauses.toList ++ clauses := by
  induction clauses generalizing formula with
  | nil => simp
  | cons clause clauses ih => rw [List.foldl_cons, ih]; simp [push]

@[simp] lemma clauses_ofList (clauses : List Clause) :
    (ofList clauses).clauses.toList = clauses :=
  clauses_foldl_push clauses empty

lemma topVar_foldl_push_le_iff (clauses : List Clause) (formula : Formula) (bound : UInt64) :
    (clauses.foldl push formula).topVar ≤ bound ↔
      formula.topVar ≤ bound ∧ ∀ clause ∈ clauses, clause.topVar ≤ bound := by
  induction clauses generalizing formula with
  | nil => simp
  | cons clause clauses ih =>
    rw [List.foldl_cons, ih, List.forall_mem_cons, push, max_word_le_iff, and_assoc]

/-- **The greatest variable is the least bound of all variables.** -/
lemma topVar_ofList_le_iff (clauses : List Clause) (bound : UInt64) :
    (ofList clauses).topVar ≤ bound ↔
      ∀ clause ∈ clauses, ∀ l ∈ clause.literals, l.var ≤ bound := by
  rw [ofList, topVar_foldl_push_le_iff]
  simp only [Clause.topVar_le_iff]
  exact and_iff_right (UInt64.le_iff_toNat_le.mpr (Nat.zero_le _))

/-- No literal has a variable beyond `2 ^ 63`, so neither has a formula. -/
lemma toNat_topVar_ofList_le (clauses : List Clause) :
    (ofList clauses).topVar.toNat ≤ 2 ^ 63 := by
  have bounded := (topVar_ofList_le_iff clauses (UInt64.ofNat (2 ^ 63))).mpr
    fun _ _ l _ => l.var_le
  rwa [UInt64.le_iff_toNat_le] at bounded

end Formula

/-! ## The weight of hard clauses -/

lemma toNat_toUInt64_of_lt {n : Nat} (h : n < 2 ^ 64) : n.toUInt64.toNat = n :=
  UInt64.toNat_ofNat_of_lt' h

lemma toNat_succ_word {a : UInt64} (low : a.toNat < 2 ^ 64 - 1) : (a + 1).toNat = a.toNat + 1 := by
  simp only [UInt64.toNat_add, UInt64.reduceToNat]
  omega

/-- The weight of hard clauses for a number of assumptions, without any bound on words. -/
def WeightPolicy.exactWeight (topVar softCount : Nat) : WeightPolicy → Nat
  | .topVar => topVar + 1
  | .dominant => max topVar softCount + 1

/-- **The weight of hard clauses does not wrap.** -/
lemma WeightPolicy.toNat_weigh {topVar softCount : UInt64} (policy : WeightPolicy)
    (low : topVar.toNat < 2 ^ 64 - 1) (few : softCount.toNat < 2 ^ 64 - 1) :
    (policy.weigh topVar softCount).toNat =
      policy.exactWeight topVar.toNat softCount.toNat := by
  cases policy with
  | topVar =>
    simp only [weigh, exactWeight, UInt64.toNat_add, UInt64.reduceToNat]
    omega
  | dominant =>
    simp only [weigh, exactWeight, UInt64.toNat_add, UInt64.toNat_max, UInt64.reduceToNat]
    omega

/-- Weights that fit together are added up without wrapping. -/
lemma toNat_foldl_add (weights : List UInt64) (total : UInt64)
    (fits : total.toNat + (weights.map UInt64.toNat).sum < 2 ^ 64) :
    (weights.foldl (· + ·) total).toNat = total.toNat + (weights.map UInt64.toNat).sum := by
  induction weights generalizing total with
  | nil => simp
  | cons weight weights ih =>
    simp only [List.map_cons, List.sum_cons] at fits ⊢
    have next : (total + weight).toNat = total.toNat + weight.toNat := by
      rw [UInt64.toNat_add]
      omega
    rw [List.foldl_cons, ih _ (by omega), next]
    omega

/-! ## The warning about hard clauses that weigh too little -/

/-- Holds if there is a warning that the soft clauses weigh as much as a hard one. -/
def Encoding.Dominated (e : Encoding) : Prop :=
  ∃ hardWeight softWeight, .weightDominated hardWeight softWeight ∈ e.warnings

lemma weightDominated_mem_warningsOf {layout : AssumptionLayout} {topVar hardWeight : UInt64}
    {assumptions : List Literal} {query : Literal} {hard soft : UInt64} :
    .weightDominated hard soft ∈ warningsOf layout topVar hardWeight assumptions query ↔
      hardWeight ≤ soft ∧ hard = hardWeight ∧ soft = assumptions.length.toUInt64 * softUnit := by
  unfold warningsOf
  simp only [List.mem_append, List.mem_map, List.mem_ite_nil_right, List.mem_singleton,
    reduceCtorEq, and_false, exists_false, or_false, false_or, Warning.weightDominated.injEq]
  constructor
  · rintro ⟨heavy, rfl, rfl⟩
    exact ⟨heavy, rfl, rfl⟩
  · rintro ⟨heavy, rfl, rfl⟩
    exact ⟨heavy, rfl, rfl⟩

/-- **The warning says the exact truth.** -/
lemma dominated_iff {layout : AssumptionLayout} {topVar hardWeight : UInt64}
    {assumptions : List Literal} {query : Literal} (formula : WeightedFormula)
    (few : assumptions.length < 2 ^ 64) :
    Encoding.Dominated ⟨formula, warningsOf layout topVar hardWeight assumptions query⟩ ↔
      hardWeight.toNat ≤ assumptions.length := by
  have exact : (assumptions.length.toUInt64 * softUnit).toNat = assumptions.length := by
    rw [softUnit, UInt64.mul_one, toNat_toUInt64_of_lt few]
  unfold Encoding.Dominated
  simp only [weightDominated_mem_warningsOf, UInt64.le_iff_toNat_le]
  constructor
  · rintro ⟨_, _, heavy, -, rfl⟩
    rwa [exact] at heavy
  · intro heavy
    exact ⟨_, _, by rwa [exact], rfl, rfl⟩

end AxiomPinpointing
