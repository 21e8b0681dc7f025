import AxiomPinpointing.Proofs.Optimum
import Mathlib.Data.Finset.SDiff
import Mathlib.Data.Fintype.Order
import Mathlib.Order.Minimal

/-!
# Justifications and repairs

Two questions about a query that follows from assumptions: from which of them does it follow already
(a **justification**), and which of them have to go for it not to follow any more (a **repair**)?
Both are asked of positions in the list of assumptions, as the same assumption may be made twice.

On the side of the encoding the same positions are those of the soft clauses, and the questions are
about satisfiability.  The two sides agree: minimal unsatisfiable sets are justifications, and
minimal correction sets are repairs.  The correspondence crosses over only through duality — the
repairs are the minimal sets that meet every justification — so a correction set is not itself a
justification.

* `satisfiableWith_iff` — the two sides, position by position.
* `not_upper_sdiff_iff` — the duality, for any upward closed property of finite sets.
* `mus_iff_justification` — both correspondences.
-/

namespace AxiomPinpointing

/-! ## Positions -/

/-- The elements of a list at some positions, in order. -/
def picked {α : Type} (xs : List α) (S : Finset ℕ) : List α :=
  (xs.zipIdx.filter fun x => x.2 ∈ S).map Prod.fst

section Picked

variable {α β : Type}

lemma mem_picked {xs : List α} {S : Finset ℕ} {x : α} :
    x ∈ picked xs S ↔ ∃ i ∈ S, xs[i]? = some x := by
  simp only [picked, List.mem_map, List.mem_filter, Prod.exists, decide_eq_true_eq]
  constructor
  · rintro ⟨x', i, ⟨hx, hi⟩, rfl⟩
    exact ⟨i, hi, List.mem_zipIdx_iff_getElem?.mp hx⟩
  · rintro ⟨i, hi, hx⟩
    exact ⟨x, i, ⟨List.mem_zipIdx_iff_getElem?.mpr hx, hi⟩, rfl⟩

lemma forall_mem_picked_map {xs : List α} {S : Finset ℕ} {f : α → β} {p : β → Prop} :
    (∀ y ∈ picked (xs.map f) S, p y) ↔ ∀ x ∈ picked xs S, p (f x) := by
  simp only [mem_picked, List.getElem?_map, Option.map_eq_some_iff]
  constructor
  · rintro h x ⟨i, hi, hx⟩
    exact h _ ⟨i, hi, x, hx, rfl⟩
  · rintro h _ ⟨i, hi, x, hx, rfl⟩
    exact h x ⟨i, hi, hx⟩

end Picked

/-! ## Duality

Justifications are the minimal sets with a property that every larger set has as well, and a repair
is a minimal set without which the property is lost.  What ties them together does not depend on
what the property is.
-/

section Duality

variable {all : Finset ℕ} {U : Finset ℕ → Prop}

/-- **The duality.**  A property is lost with the elements of a set exactly if the set meets every
minimal set that has it. -/
lemma not_upper_sdiff_iff (mono : ∀ ⦃S T⦄, S ⊆ T → U S → U T) (S : Finset ℕ) :
    ¬ U (all \ S) ↔ ∀ J, Minimal (fun T => T ⊆ all ∧ U T) J → (J ∩ S).Nonempty := by
  constructor
  · intro lost J hJ
    by_contra disjoint
    rw [Finset.not_nonempty_iff_eq_empty, ← Finset.disjoint_iff_inter_eq_empty] at disjoint
    exact lost (mono (Finset.subset_sdiff.mpr ⟨hJ.prop.1, disjoint⟩) hJ.prop.2)
  · intro meets kept
    obtain ⟨J, below, hJ⟩ := exists_minimal_le_of_wellFoundedLT
      (fun T => T ⊆ all ∧ U T) (all \ S) ⟨Finset.sdiff_subset, kept⟩
    obtain ⟨i, hi⟩ := meets J hJ
    rw [Finset.mem_inter] at hi
    exact (Finset.mem_sdiff.mp (below hi.1)).2 hi.2

end Duality

/-! ## The side of the formula -/

section Formula

variable (clauses : List Clause) (assumptions : List Literal) (query : Literal)

/-- Holds if the query follows from the clauses and the assumptions at some positions. -/
def Follows (S : Finset ℕ) : Prop :=
  ∀ a : Assignment, (∀ clause ∈ clauses, clause.holds a) →
    (∀ l ∈ picked assumptions S, l.holds a) → query.holds a

/-- A minimal set of positions from which the query follows. -/
def IsJustification : Finset ℕ → Prop :=
  Minimal fun S => S ⊆ Finset.range assumptions.length ∧ Follows clauses assumptions query S

/-- A minimal set of positions without which the query does not follow. -/
def IsRepair : Finset ℕ → Prop :=
  Minimal fun S => S ⊆ Finset.range assumptions.length ∧
    ¬ Follows clauses assumptions query (Finset.range assumptions.length \ S)

/-- A minimal set of positions that meets every justification. -/
def IsMinimalHittingSet : Finset ℕ → Prop :=
  Minimal fun S => S ⊆ Finset.range assumptions.length ∧
    ∀ J, IsJustification clauses assumptions query J → (J ∩ S).Nonempty

variable {clauses assumptions query}

lemma Follows.mono {S T : Finset ℕ} (sub : S ⊆ T) (h : Follows clauses assumptions query S) :
    Follows clauses assumptions query T := by
  intro a models kept
  refine h a models fun l hl => kept l ?_
  obtain ⟨i, hi, hx⟩ := mem_picked.mp hl
  exact mem_picked.mpr ⟨i, sub hi, hx⟩

lemma isRepair_iff_isMinimalHittingSet (S : Finset ℕ) :
    IsRepair clauses assumptions query S ↔ IsMinimalHittingSet clauses assumptions query S := by
  have mono : ∀ ⦃S T⦄, S ⊆ T → Follows clauses assumptions query S →
      Follows clauses assumptions query T := fun _ _ => Follows.mono
  rw [IsRepair, IsMinimalHittingSet]
  simp only [not_upper_sdiff_iff mono]
  rfl

end Formula

/-! ## The side of the encoding -/

namespace WeightedFormula

variable (formula : WeightedFormula)

/-- Holds if the hard clauses and the soft clauses at some positions can all be true. -/
def SatisfiableWith (S : Finset ℕ) : Prop :=
  ∃ a : Assignment, (∀ clause ∈ formula.hard, clause.holds a) ∧
    ∀ weighted ∈ picked formula.soft S, weighted.clause.holds a

/-- A minimal set of soft clauses that cannot all be true together with the hard ones. -/
def IsMinimalUnsatisfiable : Finset ℕ → Prop :=
  Minimal fun S => S ⊆ Finset.range formula.soft.length ∧ ¬ formula.SatisfiableWith S

/-- A minimal set of soft clauses without which the others can all be true. -/
def IsMinimalCorrection : Finset ℕ → Prop :=
  Minimal fun S => S ⊆ Finset.range formula.soft.length ∧
    formula.SatisfiableWith (Finset.range formula.soft.length \ S)

end WeightedFormula

section Sides

variable {formula : Formula} {hardWeight : UInt64} {denied query : Literal}
  {assumptions : List Literal}

/-- **The two sides, position by position.**  What satisfies the encoding without some assumptions
is a countermodel that keeps the others. -/
lemma satisfiableWith_iff (opposite : query.opposite = .ok denied)
    (weighty : assumptions.length < hardWeight.toNat) (S : Finset ℕ) :
    (weightedFormula formula hardWeight denied assumptions).SatisfiableWith S ↔
      ¬ Follows formula.clauses.toList assumptions query S := by
  rw [WeightedFormula.SatisfiableWith, hard_of_weighty weighty, soft_of_weighty weighty]
  simp only [forall_mem_picked_map, assumptionClause, Clause.holds_unit, List.forall_mem_append,
    List.forall_mem_singleton, Literal.holds_opposite opposite]
  constructor
  · rintro ⟨a, ⟨models, denial⟩, kept⟩ follows
    rw [follows a models kept] at denial
    exact Bool.noConfusion denial
  · intro escapes
    simp only [Follows, not_forall] at escapes
    obtain ⟨a, models, kept, denial⟩ := escapes
    refine ⟨a, ⟨models, ?_⟩, kept⟩
    rw [Bool.eq_false_of_not_eq_true denial]
    rfl

lemma length_soft_of_weighty (weighty : assumptions.length < hardWeight.toNat) :
    (weightedFormula formula hardWeight denied assumptions).soft.length = assumptions.length := by
  rw [soft_of_weighty weighty, List.length_map]

end Sides

/-- **Justifications and repairs of a query, in its encoding.**  If there is no warning about the
weights, the soft clauses are the assumptions position by position; the hard clauses and some of
them are unsatisfiable exactly if the query follows from the clauses and those assumptions.  So the
minimal unsatisfiable sets are the justifications, and the minimal correction sets are the repairs,
which are the minimal sets that meet every justification. -/
theorem mus_iff_justification (settings : Settings) (clauses : List Clause)
    (assumptions : List Literal) (query : Literal) (e : Encoding)
    (few : assumptions.length < 2 ^ 64 - 1)
    (encoded : (Encoding.ofFormula settings (Formula.ofList clauses) assumptions query).outcome =
      .ok e)
    (undominated : ¬ e.Dominated) :
    e.formula.soft.length = assumptions.length ∧
    ∀ S ⊆ Finset.range e.formula.soft.length,
      (¬ e.formula.SatisfiableWith S ↔ Follows clauses assumptions query S) ∧
      (e.formula.IsMinimalUnsatisfiable S ↔ IsJustification clauses assumptions query S) ∧
      (e.formula.IsMinimalCorrection S ↔ IsRepair clauses assumptions query S) ∧
      (IsRepair clauses assumptions query S ↔
        IsMinimalHittingSet clauses assumptions query S) := by
  have weighty := (Encoding.weighty_iff few encoded).mp undominated
  obtain ⟨denied, opposite, rfl⟩ := Encoding.eq_of_ofFormula_outcome encoded
  have sides : ∀ S,
      (weightedFormula (Formula.ofList clauses) _ denied assumptions).SatisfiableWith S ↔
        ¬ Follows clauses assumptions query S := fun S => by
    rw [satisfiableWith_iff opposite weighty, Formula.clauses_ofList]
  have positions : (weightedFormula (Formula.ofList clauses) _ denied assumptions).soft.length
      = assumptions.length := length_soft_of_weighty weighty
  refine ⟨positions, fun S _ => ⟨?_, ?_, ?_, isRepair_iff_isMinimalHittingSet S⟩⟩
  · rw [sides, not_not]
  · rw [WeightedFormula.IsMinimalUnsatisfiable, IsJustification]
    simp only [sides, positions, not_not]
  · rw [WeightedFormula.IsMinimalCorrection, IsRepair]
    simp only [sides, positions]

/-- If `y` forces `x`, and so do `z` and `w` together, then the last two of the assumptions `y`, `z`
and `w` make a minimal unsatisfiable set. -/
theorem minimalUnsatisfiable_of_two_assumptions :
    ∃ e, (Encoding.ofFormula .default (Formula.ofList [⟨[⟨-2⟩, ⟨1⟩]⟩, ⟨[⟨-3⟩, ⟨-4⟩, ⟨1⟩]⟩])
        [⟨2⟩, ⟨3⟩, ⟨4⟩] ⟨1⟩).outcome = .ok e ∧
      ¬ e.Dominated ∧ e.formula.IsMinimalUnsatisfiable {1, 2} := by
  have encoded : (Encoding.ofFormula .default
      (Formula.ofList [⟨[⟨-2⟩, ⟨1⟩]⟩, ⟨[⟨-3⟩, ⟨-4⟩, ⟨1⟩]⟩]) [⟨2⟩, ⟨3⟩, ⟨4⟩] ⟨1⟩).outcome =
      .ok _ := rfl
  have undominated := (Encoding.weighty_iff (by decide) encoded).mpr (by decide)
  refine ⟨_, encoded, undominated, ?_⟩
  have correspondence := mus_iff_justification .default [⟨[⟨-2⟩, ⟨1⟩]⟩, ⟨[⟨-3⟩, ⟨-4⟩, ⟨1⟩]⟩]
    [⟨2⟩, ⟨3⟩, ⟨4⟩] ⟨1⟩ _ (by decide) encoded undominated
  refine ((correspondence.2 {1, 2} (by decide)).2.1).mpr ⟨⟨by decide, ?_⟩, ?_⟩
  · intro a models kept
    have both : (!a 3 || (!a 4 || (a 1 || false))) = true :=
      models ⟨[⟨-3⟩, ⟨-4⟩, ⟨1⟩]⟩ (by decide)
    have third : a 3 = true := kept ⟨3⟩ (by decide)
    have fourth : a 4 = true := kept ⟨4⟩ (by decide)
    show a 1 = true
    simpa [third, fourth] using both
  · rintro T ⟨-, follows⟩ sub i hi
    by_contra missing
    have inside : ∀ j ∈ T, (j = 1 ∨ j = 2) ∧ j ≠ i := fun j hj =>
      ⟨by simpa using sub hj, fun same => missing (same ▸ hj)⟩
    -- without one of the two, the variable of that assumption can be false, and with it `x`
    have position : i = 1 ∨ i = 2 := by simpa using hi
    rcases position with rfl | rfl
    · have forced := follows (fun v => v != 1 && v != 2 && v != 3) (by decide) fun l hl => by
        obtain ⟨j, hj, hl⟩ := mem_picked.mp hl
        obtain rfl : j = 2 := by have := inside j hj; omega
        obtain rfl := Option.some.inj hl
        rfl
      exact absurd forced (by decide)
    · have forced := follows (fun v => v != 1 && v != 2 && v != 4) (by decide) fun l hl => by
        obtain ⟨j, hj, hl⟩ := mem_picked.mp hl
        obtain rfl : j = 1 := by have := inside j hj; omega
        obtain rfl := Option.some.inj hl
        rfl
      exact absurd forced (by decide)

end AxiomPinpointing
