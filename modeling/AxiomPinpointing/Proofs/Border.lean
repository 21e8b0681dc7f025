import AxiomPinpointing.Proofs.Assignment
import AxiomPinpointing.Proofs.Encoding

/-!
# The border in an encoding

Clauses carry no tag, and whether one is hard is read off its weight.  For an encoding this has to
give back what went into it: the clauses of the formula and the denied query are hard, and every
assumption is soft.

It does, with one exception.  Assumptions weigh 1, and so they stay soft as long as a hard clause
weighs more than that.  Under the dominant policy it does as soon as there is an assumption.  Under
the other policy it does as soon as there is a variable; but a formula of empty clauses has none, so
that its hard clauses weigh 1 themselves, and the assumptions come out as hard.

* `hardWeight_le_softUnit_iff` — when a hard clause weighs no more than an assumption.
* `sides_of_heavy`, `sides_of_light` — the two sides of the border, in the ordinary case and in the
  other.
-/

namespace AxiomPinpointing

/-! ## When the border is lost -/

namespace Encoding

section Border

variable (settings : Settings) {formula : Formula} {assumptions : List Literal}

/-- Holds if a hard clause weighs no more than an assumption although there is one: the policy looks
at the variables only, and there is no variable. -/
def BorderLost (settings : Settings) (formula : Formula) (assumptions : List Literal) : Prop :=
  settings.weight.value = .topVar ∧ formula.topVar = 0 ∧ 1 ≤ assumptions.length

/-- **When a hard clause weighs no more than an assumption.** -/
lemma hardWeight_le_softUnit_iff (low : formula.topVar.toNat < 2 ^ 64 - 1)
    (few : assumptions.length < 2 ^ 64 - 1) :
    hardWeight settings formula assumptions ≤ softUnit ∧ 1 ≤ assumptions.length ↔
      BorderLost settings formula assumptions := by
  have none : formula.topVar = 0 ↔ formula.topVar.toNat = 0 := UInt64.toNat_inj.symm
  have unit : softUnit.toNat = 1 := rfl
  rw [UInt64.le_iff_toNat_le, toNat_hardWeight settings low few, unit, BorderLost, none]
  cases settings.weight.value with
  | topVar =>
    simp only [WeightPolicy.exactWeight, true_and]
    omega
  | dominant =>
    -- the heavier of the two counts the assumption
    simp only [WeightPolicy.exactWeight, reduceCtorEq, false_and, iff_false, not_and]
    omega

end Border

/-! ## The two sides -/

section Sides

variable (formula : Formula) {hardWeight : UInt64} (denied : Literal) {assumptions : List Literal}

lemma sides_of_heavy (heavy : ¬ (hardWeight ≤ softUnit ∧ 1 ≤ assumptions.length))
    (few : assumptions.length < 2 ^ 64 - 1) :
    (weightedFormula formula hardWeight denied assumptions).hard =
      formula.clauses.toList ++ [⟨[denied]⟩] ∧
    (weightedFormula formula hardWeight denied assumptions).soft =
      assumptions.map assumptionClause ∧
    (weightedFormula formula hardWeight denied assumptions).softTotal.toNat =
      assumptions.length := by
  have none : hardWeight ≤ softUnit → assumptions = [] := by
    intro light
    refine List.eq_nil_of_length_eq_zero ?_
    have unassumed := not_and.mp heavy light
    omega
  have soft : (weightedFormula formula hardWeight denied assumptions).soft =
      assumptions.map assumptionClause := by
    rw [soft_weightedFormula]
    split_ifs with light
    · simp [none light]
    · rfl
  refine ⟨?_, soft, ?_⟩
  · rw [hard_weightedFormula]
    split_ifs with light
    · simp [none light]
    · simp
  · have weighed : ((assumptions.map assumptionClause).map WeightedClause.weight).map UInt64.toNat =
        List.replicate assumptions.length 1 := by
      simp [Function.comp_def, assumptionClause, softUnit]
    have total : 0 + (List.replicate assumptions.length 1).sum = assumptions.length := by simp
    rw [WeightedFormula.softTotal, soft, toNat_foldl_add, weighed]
    · exact total
    · rw [weighed]
      show 0 + (List.replicate assumptions.length 1).sum < 2 ^ 64
      omega

lemma sides_of_light (assumptions : List Literal) (light : hardWeight ≤ softUnit) :
    (weightedFormula formula hardWeight denied assumptions).hard =
      formula.clauses.toList ++ [⟨[denied]⟩] ++ assumptions.map (fun l => ⟨[l]⟩) ∧
    (weightedFormula formula hardWeight denied assumptions).soft = [] ∧
    (weightedFormula formula hardWeight denied assumptions).softTotal = 0 := by
  have soft : (weightedFormula formula hardWeight denied assumptions).soft = [] := by
    rw [soft_weightedFormula, if_pos light]
  refine ⟨?_, soft, ?_⟩
  · rw [hard_weightedFormula, if_pos light]
  · rw [WeightedFormula.softTotal, soft]
    rfl

end Sides

/-- **The border in an encoding.**  There is a clause for every clause of the formula, one for the
query, and one for every assumption.  The hard clauses are those of the formula and the denied
query, and the soft clauses are the assumptions, each with weight 1; except if the border is lost,
and only then, all of them are hard. -/
theorem hard_soft_iff_borderLost (settings : Settings) (formula : Formula)
    (assumptions : List Literal) (query : Literal) (e : Encoding)
    (low : formula.topVar.toNat < 2 ^ 64 - 1) (few : assumptions.length < 2 ^ 64 - 1)
    (encoded : (ofFormula settings formula assumptions query).outcome = .ok e) :
    ∃ denied : Literal, denied.value.toInt = -query.value.toInt ∧
      e.formula.size = formula.size + 1 + assumptions.length ∧
      (¬ BorderLost settings formula assumptions ↔
        e.formula.hard = formula.clauses.toList ++ [⟨[denied]⟩] ∧
        e.formula.soft = assumptions.map (fun l => ⟨1, ⟨[l]⟩⟩) ∧
        e.formula.softTotal.toNat = assumptions.length) ∧
      (BorderLost settings formula assumptions ↔ 1 ≤ assumptions.length ∧
        e.formula.hard =
          formula.clauses.toList ++ [⟨[denied]⟩] ++ assumptions.map (fun l => ⟨[l]⟩) ∧
        e.formula.soft = [] ∧ e.formula.softTotal = 0) := by
  obtain ⟨denied, opposite, rfl⟩ := eq_of_ofFormula_outcome encoded
  refine ⟨denied, Literal.toInt_of_opposite opposite, size_weightedFormula _ _ _ _, ?_⟩
  have border := hardWeight_le_softUnit_iff settings low few
  by_cases lost : BorderLost settings formula assumptions
  · have sides := sides_of_light formula denied assumptions (border.mpr lost).1
    refine ⟨iff_of_false (not_not.mpr lost) ?_, iff_of_true lost ⟨lost.2.2, sides⟩⟩
    rintro ⟨-, soft, -⟩
    -- there is an assumption, and it is not among the soft clauses
    have none : assumptions.map assumptionClause = [] := soft.symm.trans sides.2.1
    have some := lost.2.2
    simp_all
  · have sides := sides_of_heavy formula denied (mt border.mp lost) few
    refine ⟨iff_of_true lost sides, iff_of_false lost ?_⟩
    rintro ⟨some, -, soft, -⟩
    have none : assumptions.map assumptionClause = [] := sides.2.1.symm.trans soft
    simp_all

/-- An empty clause, and the variable 1 assumed twice to show that 2 follows.  The dominant policy
keeps the assumptions soft, and with the other policy everything is hard. -/
theorem hard_soft_of_empty_clause :
    ∃ dominant topVar,
      (ofFormula .default (.ofList [⟨[]⟩]) [⟨1⟩, ⟨1⟩] ⟨2⟩).outcome = .ok dominant ∧
      dominant.formula.hard = [⟨[]⟩, ⟨[⟨-2⟩]⟩] ∧
      dominant.formula.soft = [⟨1, ⟨[⟨1⟩]⟩⟩, ⟨1, ⟨[⟨1⟩]⟩⟩] ∧
      (ofFormula { weight := ⟨"weight", .topVar, .topVar, .dominant⟩ } (.ofList [⟨[]⟩])
        [⟨1⟩, ⟨1⟩] ⟨2⟩).outcome = .ok topVar ∧
      topVar.formula.hard = [⟨[]⟩, ⟨[⟨-2⟩]⟩, ⟨[⟨1⟩]⟩, ⟨[⟨1⟩]⟩] ∧ topVar.formula.soft = [] := by
  have kept := hard_soft_iff_borderLost .default (.ofList [⟨[]⟩]) [⟨1⟩, ⟨1⟩] ⟨2⟩ _ (by decide)
    (by decide) rfl
  have lost := hard_soft_iff_borderLost { weight := ⟨"weight", .topVar, .topVar, .dominant⟩ }
    (.ofList [⟨[]⟩]) [⟨1⟩, ⟨1⟩] ⟨2⟩ _ (by decide) (by decide) rfl
  have denial : ∀ denied : Literal, denied.value.toInt = -(2 : Int64).toInt → denied = ⟨-2⟩ :=
    fun denied value => congrArg Literal.mk (Int64.toInt_inj.mp value)
  obtain ⟨denied, value, -, ordinary, -⟩ := kept
  obtain ⟨denied', value', -, -, degenerate⟩ := lost
  obtain rfl := denial denied value
  obtain rfl := denial denied' value'
  obtain ⟨hard, soft, -⟩ := ordinary.mp fun ⟨policy, _, _⟩ => by contradiction
  obtain ⟨-, allHard, noneSoft, -⟩ := degenerate.mp ⟨rfl, rfl, by decide⟩
  exact ⟨_, _, rfl, hard, soft, rfl, allHard, noneSoft⟩

end Encoding

end AxiomPinpointing
