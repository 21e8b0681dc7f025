import AxiomPinpointing.Proofs.Weights
import Mathlib.Tactic.Lemma

/-!
# What an encoding consists of

Encoding a formula fails for one of three reasons, and otherwise has one possible result.  This file
says which (`ofFormula_outcome`), writes the result down as a list of weighted clauses
(`weightedFormula_eq`), and finds the border in it: the clauses of the formula and the denied query
are hard, and the assumptions are soft exactly if a hard clause weighs more than one of them
(`hard_weightedFormula`, `soft_weightedFormula`).
-/

namespace AxiomPinpointing

/-! ## The outcome -/

namespace Encoding

/-- The weight of hard clauses under some settings. -/
def hardWeight (settings : Settings) (formula : Formula) (assumptions : List Literal) : UInt64 :=
  settings.weight.value.weigh formula.topVar assumptions.length.toUInt64

/-- The weight of hard clauses is the one that is meant. -/
lemma toNat_hardWeight (settings : Settings) {formula : Formula} {assumptions : List Literal}
    (low : formula.topVar.toNat < 2 ^ 64 - 1) (few : assumptions.length < 2 ^ 64 - 1) :
    (hardWeight settings formula assumptions).toNat =
      settings.weight.value.exactWeight formula.topVar.toNat assumptions.length := by
  have count := toNat_toUInt64_of_lt (n := assumptions.length) (by omega)
  rw [hardWeight, WeightPolicy.toNat_weigh _ low (by omega), count]

/-- What is odd about encoding a formula under some settings. -/
def oddities (settings : Settings) (formula : Formula) (assumptions : List Literal)
    (query : Literal) : List Warning :=
  warningsOf settings.layout.value formula.topVar (hardWeight settings formula assumptions)
    assumptions query

/-- **The outcome of encoding a formula.**  The query is judged first, then the formula, and the
warnings last. -/
theorem ofFormula_outcome (settings : Settings) (formula : Formula) (assumptions : List Literal)
    (query : Literal) :
    (ofFormula settings formula assumptions query).outcome =
      match query.opposite with
      | .error fault => .error fault
      | .ok denied =>
        if formula.clauses.isEmpty then .error .noClauses
        else
          match settings.strict.value, oddities settings formula assumptions query with
          | true, warning :: _ => .error (.strict warning.message)
          | _, warnings => .ok ⟨weightedFormula formula
              (hardWeight settings formula assumptions) denied assumptions, warnings⟩ := by
  rw [ofFormula, Run.bind_outcome, oddities, hardWeight]
  cases query.opposite with
  | error fault => rfl
  | ok denied =>
    show Run.outcome (ite _ _ _) = _
    split_ifs with none
    · rfl
    · dsimp only
      -- only whether there is a first warning matters from here on
      generalize warningsOf _ _ _ _ _ = warnings
      cases settings.strict.value with
      | false => rfl
      | true => cases warnings <;> rfl

/-- **When there is an encoding**, and which one: if the query can be denied, there is a clause, and
nothing is odd that would have to be tolerated. -/
lemma ofFormula_eq_ok_iff {settings : Settings} {formula : Formula} {assumptions : List Literal}
    {query : Literal} {e : Encoding} :
    (ofFormula settings formula assumptions query).outcome = .ok e ↔
      ∃ denied, query.opposite = .ok denied ∧ formula.clauses.isEmpty = false ∧
        (settings.strict.value = true → oddities settings formula assumptions query = []) ∧
        e = ⟨weightedFormula formula (hardWeight settings formula assumptions) denied assumptions,
          oddities settings formula assumptions query⟩ := by
  rw [ofFormula_outcome]
  cases query.opposite with
  | error fault => simp
  | ok denied =>
    cases formula.clauses.isEmpty with
    | true => simp
    | false =>
      cases settings.strict.value with
      | false => simpa using eq_comm
      | true =>
        cases oddities settings formula assumptions query with
        | nil => simpa using eq_comm
        | cons warning warnings => simp

/-- What is known once an encoding is there. -/
lemma eq_of_ofFormula_outcome {settings : Settings} {formula : Formula}
    {assumptions : List Literal} {query : Literal} {e : Encoding}
    (h : (ofFormula settings formula assumptions query).outcome = .ok e) :
    ∃ denied, query.opposite = .ok denied ∧
      e = ⟨weightedFormula formula (hardWeight settings formula assumptions) denied assumptions,
        oddities settings formula assumptions query⟩ := by
  obtain ⟨denied, opposite, -, -, same⟩ := ofFormula_eq_ok_iff.mp h
  exact ⟨denied, opposite, same⟩

end Encoding

/-! ## The clauses -/

/-- The soft clause of an assumption. -/
def assumptionClause (l : Literal) : WeightedClause :=
  ⟨softUnit, ⟨[l]⟩⟩

lemma foldl_addHard (clauses : List Clause) (weighted : WeightedFormula) :
    clauses.foldl .addHard weighted =
      { weighted with
        clauses := weighted.clauses ++
          (clauses.map (WeightedClause.mk weighted.hardWeight)).toArray } := by
  induction clauses generalizing weighted with
  | nil => simp
  | cons clause clauses ih =>
    rw [List.foldl_cons, ih]
    simp [WeightedFormula.addHard, WeightedFormula.add]

lemma foldl_add_assumptionClause (assumptions : List Literal) (weighted : WeightedFormula) :
    assumptions.foldl (fun weighted l => weighted.add (assumptionClause l)) weighted =
      { weighted with
        clauses := weighted.clauses ++ (assumptions.map assumptionClause).toArray } := by
  rw [← WeightedFormula.foldl_add, List.foldl_map]

/-- **The encoded formula as one list of clauses.** -/
lemma weightedFormula_eq (formula : Formula) (hardWeight : UInt64) (denied : Literal)
    (assumptions : List Literal) :
    weightedFormula formula hardWeight denied assumptions =
      { topVar := formula.topVar
        hardWeight
        clauses := ((formula.clauses.toList ++ [Clause.mk [denied]]).map
          (WeightedClause.mk hardWeight) ++
          assumptions.map assumptionClause).toArray } := by
  rw [weightedFormula, ← Array.foldl_toList, foldl_addHard]
  refine (foldl_add_assumptionClause assumptions _).trans ?_
  simp [WeightedFormula.addHard, WeightedFormula.add]

lemma size_weightedFormula (formula : Formula) (hardWeight : UInt64) (denied : Literal)
    (assumptions : List Literal) :
    (weightedFormula formula hardWeight denied assumptions).size =
      formula.size + 1 + assumptions.length := by
  rw [WeightedFormula.size, weightedFormula_eq]
  simp only [List.size_toArray, List.length_append, List.length_map, Array.length_toList,
    List.length_singleton, Formula.size]

/-! ## The border -/

section Border

variable {formula : Formula} {hardWeight : UInt64} {denied : Literal} {assumptions : List Literal}

lemma isHard_weightedFormula (w : WeightedClause) :
    (weightedFormula formula hardWeight denied assumptions).isHard w =
      decide (hardWeight ≤ w.weight) := by
  rw [WeightedFormula.isHard, weightedFormula_eq]

/-- The clauses of the formula and the denied query are hard whatever a hard clause weighs; so are
the assumptions, if a hard clause weighs no more than one of them. -/
lemma hard_weightedFormula :
    (weightedFormula formula hardWeight denied assumptions).hard =
      formula.clauses.toList ++ [⟨[denied]⟩] ++
        if hardWeight ≤ softUnit then assumptions.map fun l => ⟨[l]⟩ else [] := by
  rw [WeightedFormula.hard, funext isHard_weightedFormula, weightedFormula_eq]
  simp only [List.filter_append, List.filter_map, List.map_append]
  congr 1
  · simp [Function.comp_def]
  · split_ifs with light <;> simp [Function.comp_def, assumptionClause, light]

lemma soft_weightedFormula :
    (weightedFormula formula hardWeight denied assumptions).soft =
      if hardWeight ≤ softUnit then [] else assumptions.map assumptionClause := by
  rw [WeightedFormula.soft, funext isHard_weightedFormula, weightedFormula_eq]
  simp only [List.filter_append, List.filter_map]
  split_ifs with light <;> simp [Function.comp_def, assumptionClause, light]

/-- With a hard clause heavier than all assumptions together, the border is where it should be. -/
lemma hard_of_weighty (weighty : assumptions.length < hardWeight.toNat) :
    (weightedFormula formula hardWeight denied assumptions).hard =
      formula.clauses.toList ++ [⟨[denied]⟩] := by
  rw [hard_weightedFormula]
  split_ifs with light
  · -- then there is at most room for no assumption at all
    have one : hardWeight.toNat ≤ 1 := UInt64.le_iff_toNat_le.mp light
    have none : assumptions = [] := List.eq_nil_of_length_eq_zero (by omega)
    rw [none, List.map_nil, List.append_nil]
  · rw [List.append_nil]

lemma soft_of_weighty (weighty : assumptions.length < hardWeight.toNat) :
    (weightedFormula formula hardWeight denied assumptions).soft =
      assumptions.map assumptionClause := by
  rw [soft_weightedFormula]
  split_ifs with light
  · have one : hardWeight.toNat ≤ 1 := UInt64.le_iff_toNat_le.mp light
    have none : assumptions = [] := List.eq_nil_of_length_eq_zero (by omega)
    rw [none, List.map_nil]
  · rfl

end Border

end AxiomPinpointing
