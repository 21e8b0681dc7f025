import AxiomPinpointing.Proofs.Assignment
import AxiomPinpointing.Proofs.Warnings

/-!
# Warnings and what they warn of

The warnings of an encoding are found by looking at its inputs, before any weighted clause is there.
What they say is about the formula that is written: that its problem line announces a variable that
is not the greatest one, or that its weights are unusual.  Both come to the same.

**Variables.**  The greatest variable of the clauses stands on the problem line.  The formula has
two more kinds of clauses, the denied query and the assumptions, and these are what the warnings
look at (`forall_vars_le_iff`).  So the problem line is right exactly if there is no such warning,
and announces too little otherwise.

**Weights.**  The occasion is the same under both policies, and each has a warning of its own for it
(`dominated_iff_policy`, `raised_iff_policy`).

Numbers are compared as natural numbers here, so that no bound on words can hide anything.
-/

namespace AxiomPinpointing

/-! ## The variables of a weighted formula -/

/-- The number of the variable, without any bound on words. -/
def Literal.exactVar (l : Literal) : Nat :=
  l.value.toInt.natAbs

/-- A variable fits its word, that of the least literal too. -/
lemma Literal.toNat_var (l : Literal) : l.var.toNat = l.exactVar := by
  have lower := l.value.le_toInt
  have upper := l.value.toInt_lt
  rw [var, exactVar]
  exact UInt64.toNat_ofNat_of_lt' (show l.value.toInt.natAbs < 2 ^ 64 by omega)

lemma Literal.exactVar_of_opposite {l denied : Literal} (h : l.opposite = .ok denied) :
    denied.exactVar = l.exactVar := by
  rw [exactVar, toInt_of_opposite h, Int.natAbs_neg, exactVar]

namespace WeightedFormula

/-- The variables of all clauses, hard and soft. -/
def vars (formula : WeightedFormula) : Finset Nat :=
  (formula.clauses.toList.flatMap fun weighted =>
    weighted.clause.literals.map Literal.exactVar).toFinset

/-- The greatest variable of all clauses, or 0 if there is none. -/
def greatestVar (formula : WeightedFormula) : Nat :=
  formula.vars.sup id

lemma greatestVar_le_iff {formula : WeightedFormula} {bound : Nat} :
    formula.greatestVar ≤ bound ↔ ∀ v ∈ formula.vars, v ≤ bound :=
  Finset.sup_le_iff

end WeightedFormula

section Variables

variable {formula : Formula} {clauses : List Clause} {hardWeight : UInt64} {denied query : Literal}
  {assumptions : List Literal}

/-- **A variable of the written formula** is one of the clauses, the query or an assumption. -/
lemma mem_vars_weightedFormula {v : Nat} :
    v ∈ (weightedFormula formula hardWeight denied assumptions).vars ↔
      (∃ clause ∈ formula.clauses.toList, ∃ l ∈ clause.literals, l.exactVar = v) ∨
        denied.exactVar = v ∨ ∃ l ∈ assumptions, l.exactVar = v := by
  rw [WeightedFormula.vars, weightedFormula_eq, ← or_assoc, or_comm (b := denied.exactVar = v),
    or_assoc, eq_comm (b := v)]
  simp [assumptionClause]

lemma exactVar_le_topVar {clause : Clause} (mem : clause ∈ clauses) {l : Literal}
    (inside : l ∈ clause.literals) : l.exactVar ≤ (Formula.ofList clauses).topVar.toNat := by
  have bounded := (Formula.topVar_ofList_le_iff clauses _).mp (UInt64.le_refl _) clause mem l inside
  rwa [UInt64.le_iff_toNat_le, Literal.toNat_var] at bounded

/-- The announced variable is never too great. -/
lemma topVar_le_greatestVar : (Formula.ofList clauses).topVar.toNat ≤
    (weightedFormula (.ofList clauses) hardWeight denied assumptions).greatestVar := by
  by_contra short
  rw [Nat.not_le] at short
  -- otherwise the greatest variable is a word that bounds all clauses
  have fits : (weightedFormula (.ofList clauses) hardWeight denied assumptions).greatestVar <
      2 ^ 64 := by
    have := (Formula.ofList clauses).topVar.toNat_lt
    omega
  have bounded : (Formula.ofList clauses).topVar ≤ UInt64.ofNat
      (weightedFormula (.ofList clauses) hardWeight denied assumptions).greatestVar := by
    refine (Formula.topVar_ofList_le_iff clauses _).mpr fun clause mem l inside => ?_
    rw [UInt64.le_iff_toNat_le, Literal.toNat_var, UInt64.toNat_ofNat_of_lt' fits]
    refine WeightedFormula.greatestVar_le_iff.mp le_rfl _ (mem_vars_weightedFormula.mpr ?_)
    exact .inl ⟨clause, by rwa [Formula.clauses_ofList], l, inside, rfl⟩
  rw [UInt64.le_iff_toNat_le, UInt64.toNat_ofNat_of_lt' fits] at bounded
  omega

/-- Only the query and the assumptions can have variables beyond the announced one. -/
lemma forall_vars_le_iff (opposite : query.opposite = .ok denied) :
    (∀ v ∈ (weightedFormula (.ofList clauses) hardWeight denied assumptions).vars,
        v ≤ (Formula.ofList clauses).topVar.toNat) ↔
      query.exactVar ≤ (Formula.ofList clauses).topVar.toNat ∧
        ∀ l ∈ assumptions, l.exactVar ≤ (Formula.ofList clauses).topVar.toNat := by
  simp only [mem_vars_weightedFormula, Formula.clauses_ofList,
    Literal.exactVar_of_opposite opposite]
  constructor
  · intro all
    exact ⟨all _ (.inr (.inl rfl)), fun l mem => all _ (.inr (.inr ⟨l, mem, rfl⟩))⟩
  · rintro ⟨low, allLow⟩ v (⟨clause, mem, l, inside, rfl⟩ | rfl | ⟨l, mem, rfl⟩)
    · exact exactVar_le_topVar mem inside
    · exact low
    · exact allLow l mem

end Variables

/-! ## What is warned of -/

/-- Holds of the warnings about single assumptions. -/
def Warning.isAssumptionBeyond : Warning → Bool
  | assumptionBeyond _ _ => true
  | _ => false

namespace Encoding

/-- Holds if there is a warning about a variable that the clauses do not have. -/
def Beyond (e : Encoding) : Prop :=
  (∃ query topVar, .queryBeyond query topVar ∈ e.warnings) ∨
    ∃ assumption topVar, .assumptionBeyond assumption topVar ∈ e.warnings

/-- Holds if there is a warning that the hard weight is not the usual one. -/
def Raised (e : Encoding) : Prop :=
  ∃ hardWeight topVar, .weightRaised hardWeight topVar ∈ e.warnings

/-- Holds if the warnings of an encoding say of its formula what is the case, and all of it. -/
structure Truthful (policy : WeightPolicy) (assumptions : List Literal) (e : Encoding) : Prop where
  /-- The announced variable is the greatest one unless there is a warning about a variable. -/
  topVar_eq : e.formula.topVar.toNat = e.formula.greatestVar ↔ ¬ e.Beyond
  topVar_lt : e.formula.topVar.toNat < e.formula.greatestVar ↔ e.Beyond
  /-- Each assumption beyond the announced variable has its warning, in order. -/
  assumptionsBeyond : e.warnings.filter Warning.isAssumptionBeyond =
    (assumptions.filter fun l => e.formula.topVar.toNat < l.exactVar).map
      (.assumptionBeyond · e.formula.topVar)
  /-- A hard clause is said to be too light exactly if it is. -/
  dominated_weight : e.Dominated ↔ e.formula.hardWeight.toNat ≤ assumptions.length
  dominated_policy : e.Dominated ↔
    policy = .topVar ∧ e.formula.topVar.toNat < assumptions.length
  raised_policy : e.Raised ↔ policy = .dominant ∧ e.formula.topVar.toNat < assumptions.length
  /-- Weights have one warning at most, and its occasion is the same under both policies. -/
  notBoth : ¬ (e.Dominated ∧ e.Raised)
  either : e.Dominated ∨ e.Raised ↔ e.formula.topVar.toNat < assumptions.length
  /-- Where there is nothing to warn of, there is no warning, and nowhere else. -/
  silent : e.warnings = [] ↔ 1 ≤ assumptions.length ∧
    assumptions.length ≤ e.formula.topVar.toNat ∧
    ∀ v ∈ e.formula.vars, v ≤ e.formula.topVar.toNat

section Occasions

variable {layout : AssumptionLayout} {topVar : UInt64} {assumptions : List Literal}
  {query : Literal} {policy : WeightPolicy} {hardWeight softWeight : UInt64} {e : Encoding}
  {many : Prop} [Decidable many]
  (h : e.warnings = inputOddities layout topVar assumptions query ++
    if many then [policy.oddity topVar hardWeight softWeight] else [])
include h

lemma beyond_iff : e.Beyond ↔
    topVar.toNat < query.exactVar ∨ ∃ l ∈ assumptions, topVar.toNat < l.exactVar := by
  rw [Beyond, h]
  cases policy <;>
    simp [inputOddities, WeightPolicy.oddity, UInt64.lt_iff_toNat_lt, Literal.toNat_var]

lemma filter_isAssumptionBeyond : e.warnings.filter Warning.isAssumptionBeyond =
    (assumptions.filter fun l => topVar.toNat < l.exactVar).map (.assumptionBeyond · topVar) := by
  have beyond : (fun l : Literal => decide (topVar < l.var)) =
      fun l => decide (topVar.toNat < l.exactVar) := by
    funext l
    simp only [UInt64.lt_iff_toNat_lt, Literal.toNat_var]
  have all : ∀ w ∈ (assumptions.filter (topVar < ·.var)).map (.assumptionBeyond · topVar),
      Warning.isAssumptionBeyond w = true := by
    rw [List.forall_mem_map]
    exact fun l _ => rfl
  have others : ∀ (P : Prop) [Decidable P] (w : Warning), w.isAssumptionBeyond = false →
      (if P then [w] else []).filter Warning.isAssumptionBeyond = [] := by
    intro P _ w other
    split_ifs <;> simp [other]
  rw [h, inputOddities, List.filter_append, List.filter_append, List.filter_append,
    List.filter_eq_self.mpr all, beyond, others _ _ rfl, others _ _ rfl,
    others _ _ (by cases policy <;> rfl)]
  simp

lemma dominated_iff_policy : e.Dominated ↔ policy = .topVar ∧ many := by
  rw [Dominated, h]
  cases policy <;> simp [inputOddities, WeightPolicy.oddity]

lemma raised_iff_policy : e.Raised ↔ policy = .dominant ∧ many := by
  rw [Raised, h]
  cases policy <;> simp [inputOddities, WeightPolicy.oddity]

lemma warnings_eq_nil_iff : e.warnings = [] ↔
    1 ≤ assumptions.length ∧ query.exactVar ≤ topVar.toNat ∧
      (∀ l ∈ assumptions, l.exactVar ≤ topVar.toNat) ∧ ¬ many := by
  rw [h]
  simp [inputOddities, UInt64.lt_iff_toNat_lt, Literal.toNat_var, Nat.one_le_iff_ne_zero]

end Occasions

/-- **Warnings tell the truth** about the formula that is written, whatever the clauses, the
assumptions and the query are, and under either policy. -/
theorem warnings_truthful (settings : Settings) (clauses : List Clause)
    (assumptions : List Literal) (query : Literal) (e : Encoding)
    (few : assumptions.length < 2 ^ 64 - 1)
    (encoded : (ofFormula settings (.ofList clauses) assumptions query).outcome = .ok e) :
    e.Truthful settings.weight.value assumptions := by
  have low : (Formula.ofList clauses).topVar.toNat < 2 ^ 64 - 1 := by
    have := Formula.toNat_topVar_ofList_le clauses
    omega
  obtain ⟨denied, opposite, same⟩ := eq_of_ofFormula_outcome encoded
  have formula : e.formula = weightedFormula (.ofList clauses)
      (hardWeight settings (.ofList clauses) assumptions) denied assumptions := by rw [same]
  have warnings := (congrArg Encoding.warnings same).trans (oddities_eq settings low few)
  have topVar : e.formula.topVar = (Formula.ofList clauses).topVar := by
    rw [formula, weightedFormula_eq]
  have weight : e.formula.hardWeight = hardWeight settings (.ofList clauses) assumptions := by
    rw [formula, weightedFormula_eq]
  have atMost : e.formula.topVar.toNat ≤ e.formula.greatestVar := by
    rw [topVar, formula]
    exact topVar_le_greatestVar
  have inputs : (∀ v ∈ e.formula.vars, v ≤ e.formula.topVar.toNat) ↔
      query.exactVar ≤ e.formula.topVar.toNat ∧
        ∀ l ∈ assumptions, l.exactVar ≤ e.formula.topVar.toNat := by
    rw [topVar, formula]
    exact forall_vars_le_iff opposite
  rw [← topVar] at warnings
  have beyond : e.Beyond ↔ ¬ ∀ v ∈ e.formula.vars, v ≤ e.formula.topVar.toNat := by
    rw [beyond_iff warnings, inputs]
    simp only [not_and_or, not_forall, not_le, exists_prop]
  have short : e.formula.topVar.toNat < e.formula.greatestVar ↔ e.Beyond := by
    rw [beyond, ← WeightedFormula.greatestVar_le_iff, Nat.not_le]
  constructor
  · rw [← short]
    omega
  · exact short
  · exact filter_isAssumptionBeyond warnings
  · rw [weight, same]
    exact dominated_iff _ (by omega)
  · exact dominated_iff_policy warnings
  · exact raised_iff_policy warnings
  · rw [dominated_iff_policy warnings, raised_iff_policy warnings]
    rintro ⟨⟨topVar, -⟩, dominant, -⟩
    rw [topVar] at dominant
    contradiction
  · rw [dominated_iff_policy warnings, raised_iff_policy warnings]
    cases settings.weight.value <;> simp
  · rw [warnings_eq_nil_iff warnings, inputs, Nat.not_lt]
    tauto

/-- One clause and three assumptions, the last of which is the least literal: its variable is 2⁶³,
and the problem line announces 2. -/
theorem warnings_truthful_least :
    ∃ e, (ofFormula .default (.ofList [⟨[⟨1⟩, ⟨-2⟩]⟩]) [⟨1⟩, ⟨-3⟩, .least] ⟨2⟩).outcome = .ok e ∧
      e.formula.topVar = 2 ∧ 2 < e.formula.greatestVar ∧
      e.warnings.filter Warning.isAssumptionBeyond =
        [.assumptionBeyond ⟨-3⟩ 2, .assumptionBeyond .least 2] ∧
      e.Raised ∧ ¬ e.Dominated := by
  refine ⟨_, rfl, rfl, ?_⟩
  have truthful :=
    warnings_truthful .default [⟨[⟨1⟩, ⟨-2⟩]⟩] [⟨1⟩, ⟨-3⟩, .least] ⟨2⟩ _ (by decide) rfl
  have raised := truthful.raised_policy.mpr ⟨rfl, by decide⟩
  refine ⟨?_, truthful.assumptionsBeyond, raised, fun dominated => ?_⟩
  · exact truthful.topVar_lt.mpr (.inr ⟨⟨-3⟩, 2, by decide⟩)
  · exact truthful.notBoth ⟨dominated, raised⟩

end Encoding

end AxiomPinpointing
