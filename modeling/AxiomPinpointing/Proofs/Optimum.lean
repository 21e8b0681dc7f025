import AxiomPinpointing.Proofs.Assignment
import AxiomPinpointing.Proofs.Encoding

/-!
# What a solver finds

A MaxSAT solver looks for an assignment of least cost.  On an encoding without the warning that hard
clauses weigh too little, this is the right thing to look for: the assignments of least cost are the
countermodels of the query that give up the fewest assumptions.

The whole argument is one equation, `cost_weightedFormula`: the cost is a multiple of the hard
weight plus the number of assumptions given up, the latter being less than the hard weight.  So an
assignment that breaks a hard clause costs more than any that does not, whatever it does to the
assumptions.
-/

namespace AxiomPinpointing

variable {clauses : List Clause} {assumptions : List Literal} {query denied : Literal}

/-- How many of some assumptions an assignment gives up, repetitions counted separately. -/
def givenUp (assumptions : List Literal) (a : Assignment) : Nat :=
  assumptions.countP fun l => !l.holds a

/-- How many of some clauses an assignment breaks. -/
def broken (clauses : List Clause) (a : Assignment) : Nat :=
  clauses.countP fun clause => !clause.holds a

lemma givenUp_le_length (a : Assignment) : givenUp assumptions a ≤ assumptions.length :=
  List.countP_le_length

lemma sum_cost_mk (weight : UInt64) (a : Assignment) :
    ((clauses.map (WeightedClause.mk weight)).map (WeightedClause.cost a)).sum =
      weight.toNat * broken clauses a := by
  induction clauses with
  | nil => rfl
  | cons clause clauses ih =>
    rw [List.map_cons, List.map_cons, List.sum_cons, ih, broken, broken, List.countP_cons,
      WeightedClause.cost]
    cases clause.holds a
    · simp [Nat.mul_add, Nat.add_comm]
    · simp

lemma sum_cost_assumptionClause (a : Assignment) :
    ((assumptions.map assumptionClause).map (WeightedClause.cost a)).sum =
      givenUp assumptions a := by
  have units : assumptions.map assumptionClause =
      (assumptions.map fun l => Clause.mk [l]).map (WeightedClause.mk softUnit) := by
    rw [List.map_map]
    rfl
  rw [units, sum_cost_mk, broken, List.countP_map, givenUp]
  simp [softUnit, Function.comp_def]

/-- **The cost of an assignment.**  The clauses that are hard by intention are counted with the hard
weight, and the assumptions one by one. -/
theorem cost_weightedFormula (formula : Formula) (hardWeight : UInt64) (denied : Literal)
    (assumptions : List Literal) (a : Assignment) :
    (weightedFormula formula hardWeight denied assumptions).cost a =
      hardWeight.toNat * broken (formula.clauses.toList ++ [⟨[denied]⟩]) a +
        givenUp assumptions a := by
  rw [WeightedFormula.cost, weightedFormula_eq]
  rw [List.map_append, List.sum_append, sum_cost_mk, sum_cost_assumptionClause]

/-- The countermodels are the assignments that break nothing. -/
lemma broken_eq_zero_iff (opposite : query.opposite = .ok denied) (a : Assignment) :
    broken (clauses ++ [⟨[denied]⟩]) a = 0 ↔ Countermodel clauses query a := by
  have denial := Literal.holds_opposite opposite a
  rw [broken, List.countP_eq_zero, Countermodel]
  simp [or_imp, forall_and, denial]

/-! ## Hard clauses that weigh enough -/

section Weighty

variable {formula : Formula} {hardWeight : UInt64} {a b : Assignment}

lemma cost_of_countermodel (opposite : query.opposite = .ok denied)
    (model : Countermodel formula.clauses.toList query a) :
    (weightedFormula formula hardWeight denied assumptions).cost a = givenUp assumptions a := by
  rw [cost_weightedFormula, (broken_eq_zero_iff opposite a).mpr model, Nat.mul_zero, Nat.zero_add]

/-- An assignment that is no countermodel pays for a hard clause at least once. -/
lemma hardWeight_le_cost (opposite : query.opposite = .ok denied)
    (other : ¬ Countermodel formula.clauses.toList query b) :
    hardWeight.toNat ≤ (weightedFormula formula hardWeight denied assumptions).cost b := by
  have some : broken (formula.clauses.toList ++ [⟨[denied]⟩]) b ≠ 0 :=
    fun none => other ((broken_eq_zero_iff opposite b).mp none)
  calc hardWeight.toNat
      ≤ hardWeight.toNat * broken (formula.clauses.toList ++ [⟨[denied]⟩]) b :=
        Nat.le_mul_of_pos_right _ (Nat.pos_of_ne_zero some)
    _ ≤ _ := by rw [cost_weightedFormula]; exact Nat.le_add_right _ _

/-- **The gap.**  If a hard clause weighs more than all assumptions, every countermodel is cheaper
than any other assignment. -/
lemma cost_lt_cost (opposite : query.opposite = .ok denied)
    (weighty : assumptions.length < hardWeight.toNat)
    (model : Countermodel formula.clauses.toList query a)
    (other : ¬ Countermodel formula.clauses.toList query b) :
    (weightedFormula formula hardWeight denied assumptions).cost a <
      (weightedFormula formula hardWeight denied assumptions).cost b := by
  rw [cost_of_countermodel opposite model]
  calc givenUp assumptions a
      ≤ assumptions.length := givenUp_le_length a
    _ < hardWeight.toNat := weighty
    _ ≤ _ := hardWeight_le_cost opposite other

/-- Given the gap, being cheapest is being a countermodel that is cheapest among countermodels. -/
lemma cheapest_iff (opposite : query.opposite = .ok denied)
    (weighty : assumptions.length < hardWeight.toNat)
    (model : Countermodel formula.clauses.toList query b) (a : Assignment) :
    (∀ c, (weightedFormula formula hardWeight denied assumptions).cost a ≤
        (weightedFormula formula hardWeight denied assumptions).cost c) ↔
      Countermodel formula.clauses.toList query a ∧
        ∀ c, Countermodel formula.clauses.toList query c →
          givenUp assumptions a ≤ givenUp assumptions c := by
  constructor
  · intro cheapest
    have isModel : Countermodel formula.clauses.toList query a := by
      by_contra other
      exact absurd (cheapest b) (Nat.not_le.mpr (cost_lt_cost opposite weighty model other))
    refine ⟨isModel, fun c hc => ?_⟩
    have least := cheapest c
    rwa [cost_of_countermodel opposite isModel, cost_of_countermodel opposite hc] at least
  · rintro ⟨isModel, fewest⟩ c
    by_cases hc : Countermodel formula.clauses.toList query c
    · rw [cost_of_countermodel opposite isModel, cost_of_countermodel opposite hc]
      exact fewest c hc
    · exact Nat.le_of_lt (cost_lt_cost opposite weighty isModel hc)

end Weighty

/-! ## Encodings -/

namespace Encoding

variable {settings : Settings} {e : Encoding}

/-- The hard clauses of an encoding weigh enough exactly if there is no warning that they do not. -/
lemma weighty_iff (few : assumptions.length < 2 ^ 64 - 1)
    (encoded : (ofFormula settings (Formula.ofList clauses) assumptions query).outcome = .ok e) :
    ¬ e.Dominated ↔
      assumptions.length < (hardWeight settings (Formula.ofList clauses) assumptions).toNat := by
  obtain ⟨denied, -, rfl⟩ := eq_of_ofFormula_outcome encoded
  rw [oddities, dominated_iff _ (by omega), Nat.not_le]

/-- The dominant policy always chooses a weight that is enough. -/
lemma length_lt_toNat_hardWeight (few : assumptions.length < 2 ^ 64 - 1)
    (dominant : settings.weight.value = .dominant) :
    assumptions.length < (hardWeight settings (Formula.ofList clauses) assumptions).toNat := by
  have low := Formula.toNat_topVar_ofList_le clauses
  rw [toNat_hardWeight settings (by omega) few, dominant]
  exact Nat.lt_succ_of_le (Nat.le_max_right _ _)

end Encoding

/-- **What a solver finds in an encoding.**  There is no warning about the weights under the
dominant policy.  Without one, every countermodel costs the number of assumptions it gives up and
less than any assignment that is no countermodel; so, if there are countermodels, the assignments of
least cost are those countermodels that give up the fewest assumptions. -/
theorem leastCost_iff_fewest_givenUp (settings : Settings) (clauses : List Clause)
    (assumptions : List Literal) (query : Literal) (e : Encoding)
    (few : assumptions.length < 2 ^ 64 - 1)
    (encoded : (Encoding.ofFormula settings (Formula.ofList clauses) assumptions query).outcome =
      .ok e) :
    (settings.weight.value = .dominant → ¬ e.Dominated) ∧
    (¬ e.Dominated →
      (∀ a, Countermodel clauses query a →
        e.formula.cost a = givenUp assumptions a ∧
        ∀ b, ¬ Countermodel clauses query b → e.formula.cost a < e.formula.cost b) ∧
      ((∃ a, Countermodel clauses query a) → ∀ a,
        (∀ b, e.formula.cost a ≤ e.formula.cost b) ↔
          Countermodel clauses query a ∧ ∀ b, Countermodel clauses query b →
            givenUp assumptions a ≤ givenUp assumptions b)) := by
  refine ⟨fun dominant => ?_, fun undominated => ?_⟩
  · rw [Encoding.weighty_iff few encoded]
    exact Encoding.length_lt_toNat_hardWeight few dominant
  · have weighty := (Encoding.weighty_iff few encoded).mp undominated
    obtain ⟨denied, opposite, rfl⟩ := Encoding.eq_of_ofFormula_outcome encoded
    have models : ∀ a, Countermodel clauses query a ↔
        Countermodel (Formula.ofList clauses).clauses.toList query a := by
      simp
    simp only [models]
    refine ⟨fun a model => ⟨cost_of_countermodel opposite model, fun b other => ?_⟩, ?_⟩
    · exact cost_lt_cost opposite weighty model other
    · rintro ⟨b, model⟩ a
      exact cheapest_iff opposite weighty model a

/-- Of `x ∨ y` and `z`, with `¬ y` assumed twice and `z` once: to keep `x` from following, both
assumptions of `¬ y` have to be given up. -/
theorem leastCost_of_doubled_assumption :
    ∃ e, (Encoding.ofFormula .default (Formula.ofList [⟨[⟨1⟩, ⟨2⟩]⟩, ⟨[⟨3⟩]⟩])
        [⟨-2⟩, ⟨-2⟩, ⟨3⟩] ⟨1⟩).outcome = .ok e ∧
      e.formula.cost (fun v => v != 1) = 2 ∧
      ∀ b, e.formula.cost (fun v => v != 1) ≤ e.formula.cost b := by
  refine ⟨_, rfl, rfl, ?_⟩
  have solved := leastCost_iff_fewest_givenUp .default [⟨[⟨1⟩, ⟨2⟩]⟩, ⟨[⟨3⟩]⟩]
    [⟨-2⟩, ⟨-2⟩, ⟨3⟩] ⟨1⟩ _ (by decide) rfl
  have model : Countermodel [⟨[⟨1⟩, ⟨2⟩]⟩, ⟨[⟨3⟩]⟩] ⟨1⟩ (fun v => v != 1) := by decide
  refine ((solved.2 (solved.1 rfl)).2 ⟨_, model⟩ _).mpr ⟨model, fun b hb => ?_⟩
  have first : (b 1 || (b 2 || false)) = true := hb.1 ⟨[⟨1⟩, ⟨2⟩]⟩ (by decide)
  have denied : b 1 = false := hb.2
  have second : b 2 = true := by simpa [denied] using first
  have doubled : Literal.holds b ⟨-2⟩ = false := by
    show (!b 2) = false
    rw [second]
    rfl
  show 2 ≤ _
  simp [givenUp, List.countP_cons, doubled]

end AxiomPinpointing
