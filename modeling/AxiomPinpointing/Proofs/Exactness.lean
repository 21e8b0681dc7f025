import AxiomPinpointing.Proofs.AssumptionLayouts
import AxiomPinpointing.Proofs.Border
import AxiomPinpointing.Proofs.ClauseSource
import AxiomPinpointing.Proofs.Truthfulness

/-!
# Nothing wraps

An encoding is computed with words of 64 bits, and these do not all look alike: literals have a
sign, variables and weights have none.  Numbers meet at the limits of both.

* The variable of the least literal is `2 ^ 63`.  It fits a word without a sign, and as no other
  literal has a variable so great, there is room for one more, and for the weights.
* The opposite of the least literal does not fit a word with a sign.  It is needed for the query
  only, and so the query is all that can be refused for it.  That happens before anything is read,
  and a source is never refused in this way (`Fault.OfNegation`).

So a formula that was read knows its greatest variable (`Formula.TopVarExact`), every number of an
encoding is the one that is meant (`Encoding.Exact`), and every other question is encoded unless
there are warnings and these are not tolerated.
-/

namespace AxiomPinpointing

/-! ## The greatest variable -/

/-- Only the terminator has no variable. -/
lemma Literal.exactVar_eq_zero_iff {l : Literal} : l.exactVar = 0 ↔ l = terminator := by
  rw [exactVar, Int.natAbs_eq_zero]
  constructor
  · intro zero
    exact congrArg Literal.mk (Int64.toInt_inj.mp zero)
  · rintro rfl
    rfl

/-- No other literal has as great a variable as the least one. -/
lemma Literal.exactVar_eq_iff {l : Literal} : l.exactVar = 2 ^ 63 ↔ l = least := by
  constructor
  · intro greatest
    have upper := l.value.toInt_lt
    rw [exactVar] at greatest
    have lowest : l.value.toInt = Int64.minValue.toInt := by
      rw [Int64.toInt_minValue]
      omega
    exact congrArg Literal.mk (Int64.toInt_inj.mp lowest)
  · rintro rfl
    rfl

namespace Formula

/-- The variables of all clauses. -/
def vars (formula : Formula) : Set Nat :=
  {v | ∃ clause ∈ formula.clauses.toList, ∃ l ∈ clause.literals, l.exactVar = v}

/-- Holds if the variable that a formula keeps is the greatest of its variables. -/
structure TopVarExact (formula : Formula) : Prop where
  greatest : formula.vars.Nonempty → IsGreatest formula.vars formula.topVar.toNat
  eq_zero_iff : formula.topVar = 0 ↔ ∀ clause ∈ formula.clauses.toList, clause.literals = []
  le : formula.topVar.toNat ≤ 2 ^ 63
  eq_iff : formula.topVar.toNat = 2 ^ 63 ↔
    ∃ clause ∈ formula.clauses.toList, Literal.least ∈ clause.literals

section TopVar

variable {formula : Formula} {source : Source}

/-- **The variable that is kept** is the least bound of all variables. -/
lemma toNat_topVar_le_iff (pushed : formula = ofList formula.clauses.toList) {bound : Nat} :
    formula.topVar.toNat ≤ bound ↔ ∀ v ∈ formula.vars, v ≤ bound := by
  constructor
  · rintro low v ⟨clause, mem, l, inside, rfl⟩
    rw [pushed] at low
    exact Nat.le_trans (exactVar_le_topVar mem inside) low
  · intro bounds
    rcases Nat.lt_or_ge bound (2 ^ 64) with fits | large
    · have exact : (UInt64.ofNat bound).toNat = bound := UInt64.toNat_ofNat_of_lt' fits
      have bounded : (ofList formula.clauses.toList).topVar ≤ UInt64.ofNat bound := by
        refine (topVar_ofList_le_iff _ _).mpr fun clause mem l inside => ?_
        rw [UInt64.le_iff_toNat_le, Literal.toNat_var, exact]
        exact bounds _ ⟨clause, mem, l, inside, rfl⟩
      rwa [← pushed, UInt64.le_iff_toNat_le, exact] at bounded
    · exact Nat.le_trans (Nat.le_of_lt formula.topVar.toNat_lt) large

lemma isGreatest_topVar (pushed : formula = ofList formula.clauses.toList)
    (nonempty : formula.vars.Nonempty) : IsGreatest formula.vars formula.topVar.toNat := by
  have bounds := (toNat_topVar_le_iff pushed).mp (Nat.le_refl _)
  refine ⟨by_contra fun missing => ?_, bounds⟩
  -- otherwise all variables are smaller, and one less bounds them as well
  have smaller : ∀ v ∈ formula.vars, v < formula.topVar.toNat := fun v mem =>
    Nat.lt_of_le_of_ne (bounds v mem) fun same => missing (same ▸ mem)
  obtain ⟨w, mem⟩ := nonempty
  have pos := smaller w mem
  have bounded : formula.topVar.toNat ≤ formula.topVar.toNat - 1 :=
    (toNat_topVar_le_iff pushed).mpr fun v mem => Nat.le_sub_one_of_lt (smaller v mem)
  omega

lemma topVar_eq_zero_iff (written : formula.Written) :
    formula.topVar = 0 ↔ ∀ clause ∈ formula.clauses.toList, clause.literals = [] := by
  rw [← UInt64.toNat_inj, UInt64.toNat_zero, ← Nat.le_zero, toNat_topVar_le_iff written.pushed]
  constructor
  · intro low clause mem
    refine List.eq_nil_iff_forall_not_mem.mpr fun l inside => ?_
    have zero := low _ ⟨clause, mem, l, inside, rfl⟩
    obtain rfl := Literal.exactVar_eq_zero_iff.mp (Nat.le_zero.mp zero)
    exact written.proper clause mem inside
  · rintro none v ⟨clause, mem, l, inside, rfl⟩
    rw [none clause mem] at inside
    contradiction

/-- **A formula that was read knows its greatest variable.** -/
lemma topVarExact_of_read (given : (read source).outcome = .ok formula) :
    formula.TopVarExact := by
  obtain ⟨written, -⟩ := written_of_read given
  have atMost : formula.topVar.toNat ≤ 2 ^ 63 := by
    rw [written.pushed]
    exact toNat_topVar_ofList_le _
  refine ⟨isGreatest_topVar written.pushed, topVar_eq_zero_iff written, atMost, fun full => ?_, ?_⟩
  · have nonempty : formula.vars.Nonempty := by
      by_contra empty
      have zero : formula.topVar = 0 := (topVar_eq_zero_iff written).mpr fun clause mem =>
        List.eq_nil_iff_forall_not_mem.mpr fun l inside => empty ⟨_, clause, mem, l, inside, rfl⟩
      rw [zero] at full
      contradiction
    obtain ⟨clause, mem, l, inside, greatest⟩ :=
      (isGreatest_topVar written.pushed nonempty).1
    obtain rfl := Literal.exactVar_eq_iff.mp (greatest.trans full)
    exact ⟨clause, mem, inside⟩
  · rintro ⟨clause, mem, inside⟩
    refine Nat.le_antisymm atMost ((toNat_topVar_le_iff written.pushed).mp (Nat.le_refl _) _ ?_)
    exact ⟨clause, mem, _, inside, Literal.exactVar_eq_iff.mpr rfl⟩

end TopVar

end Formula

/-! ## The weights -/

/-- Holds if all that is computed from the greatest variable and the number of assumptions is what
is meant. -/
structure WeightsExact (topVar : UInt64) (n : Nat) : Prop where
  count : n.toUInt64.toNat = n
  next : (topVar + 1).toNat = topVar.toNat + 1
  weigh : ∀ policy : WeightPolicy,
    (policy.weigh topVar n.toUInt64).toNat = policy.exactWeight topVar.toNat n
  soft : (n.toUInt64 * softUnit).toNat = n * softUnit.toNat
  usual : n ≤ topVar.toNat → ∀ policy : WeightPolicy, policy.weigh topVar n.toUInt64 = topVar + 1

lemma weightsExact {topVar : UInt64} {n : Nat} (low : topVar.toNat ≤ 2 ^ 63)
    (few : n < 2 ^ 64 - 1) : WeightsExact topVar n := by
  have count : n.toUInt64.toNat = n := toNat_toUInt64_of_lt (by omega)
  have next : (topVar + 1).toNat = topVar.toNat + 1 := toNat_succ_word (by omega)
  have weigh : ∀ policy : WeightPolicy,
      (policy.weigh topVar n.toUInt64).toNat = policy.exactWeight topVar.toNat n := by
    intro policy
    rw [policy.toNat_weigh (by omega) (by omega), count]
  refine ⟨count, next, weigh, ?_, fun few policy => UInt64.toNat_inj.mp ?_⟩
  · rw [softUnit, UInt64.mul_one, count]
    exact (Nat.mul_one n).symm
  · rw [weigh, next]
    cases policy with
    | topVar => rfl
    | dominant => rw [WeightPolicy.exactWeight, Nat.max_eq_left few]

/-! ## The denied query -/

namespace Literal

lemma opposite_eq_error_iff {l : Literal} {fault : Fault} : l.opposite = .error fault ↔
    (l = terminator ∧ fault = .zeroLiteral) ∨ (l = least ∧ fault = .unnegatable l) := by
  have distinct : least ≠ terminator := by decide
  rw [opposite]
  split_ifs with zero lowest
  · simp [zero, distinct.symm, eq_comm]
  · simp [lowest, distinct, eq_comm]
  · simp [zero, lowest]

lemma exists_opposite {l : Literal} (literal : l ≠ terminator) (notLeast : l ≠ least) :
    ∃ denied, l.opposite = .ok denied := by
  rw [opposite, if_neg literal, if_neg notLeast]
  exact ⟨_, rfl⟩

end Literal

/-- Holds of the faults of negating a literal. -/
inductive Fault.OfNegation : Fault → Prop
  | zero : OfNegation .zeroLiteral
  | unnegatable (l : Literal) : OfNegation (.unnegatable l)

lemma Formula.Settles.not_ofNegation {clauses : List Clause} {number : Nat} {line? : Option Line}
    {result : Except Fault Formula} {fault : Fault} (h : Settles clauses number line? result)
    (fails : result = .error fault) : ¬ fault.OfNegation := by
  have gathering : gathered clauses = .error fault → ¬ fault.OfNegation := by
    intro none
    rw [gathered] at none
    split_ifs at none
    cases none
    nofun
  cases h with
  | unreadable =>
    cases fails
    nofun
  | ending => exact gathering fails
  | faulty _ blamed =>
    cases fails
    cases blamed <;> nofun
  | complete => exact gathering fails

/-- A source of clauses is not refused for a negation. -/
lemma Formula.not_ofNegation_of_read {source : Source} {fault : Fault}
    (fails : (read source).outcome = .error fault) : ¬ fault.OfNegation := by
  rw [read_outcome] at fails
  obtain ⟨k, formula, passes, ends⟩ := exists_passes visit 1 empty source.lines
  obtain ⟨-, clauses, -, rfl⟩ := gathers_of_passes passes
  exact (settles_iff.mpr ⟨_, ends, rfl⟩).not_ofNegation fails

lemma Assumptions.WordBlames.not_ofNegation {line : Nat} {word : String} {fault : Fault}
    (h : WordBlames line word fault) : ¬ fault.OfNegation := by
  cases h <;> nofun

/-- A source of assumptions is not refused for a negation. -/
lemma Assumptions.not_ofNegation_of_read {layout : AssumptionLayout} {source : Source}
    {fault : Fault} (fails : (read layout source).outcome = .error fault) :
    ¬ fault.OfNegation := by
  cases layout with
  | column =>
    obtain ⟨k, line, -, faulty, -⟩ := read_column_eq_error_iff.mp fails
    cases faulty with
    | unreadable => nofun
    | firstWord _ blamed => exact blamed.not_ofNegation
  | row =>
    obtain ⟨k, -, comesTo⟩ := read_row_eq_iff.mp fails
    generalize source.lines[k]? = line? at comesTo
    cases comesTo with
    | unreadable => nofun
    | faulty blamed =>
      cases blamed with
      | badLast => nofun
      | missing => nofun
      | word _ _ _ blamed => exact blamed.not_ofNegation

namespace Encoding

variable {settings : Settings} {clauses assumptionSource : Source} {query denied : Literal}
  {formula : Formula} {assumptions : List Literal} {fault : Fault} {e : Encoding}

/-- **What an encoding comes to** when the query can be denied and there are clauses. -/
lemma ofFormula_eq_ok_or_strict (opposite : query.opposite = .ok denied)
    (filled : formula.clauses.isEmpty = false) :
    (∃ e, (ofFormula settings formula assumptions query).outcome = .ok e) ∨
      settings.strict.value = true ∧ ∃ message,
        (ofFormula settings formula assumptions query).outcome = .error (.strict message) := by
  rw [ofFormula_outcome, opposite, filled]
  cases settings.strict.value with
  | false => exact .inl ⟨_, rfl⟩
  | true =>
    cases oddities settings formula assumptions query with
    | nil => exact .inl ⟨_, rfl⟩
    | cons warning warnings => exact .inr ⟨rfl, _, rfl⟩

/-- **A negation is refused exactly if it is that of the query**, whatever the sources are. -/
lemma ofSources_eq_error_iff_of_ofNegation (negation : fault.OfNegation) :
    (ofSources settings clauses assumptionSource query).outcome = .error fault ↔
      query.opposite = .error fault := by
  have first : (ofSources settings clauses assumptionSource query).outcome =
      query.opposite >>= fun _ => (Formula.read clauses).outcome >>= fun formula =>
        (Assumptions.read settings.layout.value assumptionSource).outcome >>= fun assumptions =>
          (ofFormula settings formula assumptions query).outcome := by
    simp only [ofSources, Run.bind_outcome]
    rfl
  rw [first, bind_eq_error, or_iff_left_iff_imp]
  rintro ⟨denied, opposite, fails⟩
  rcases bind_eq_error.mp fails with fails | ⟨formula, given, fails⟩
  · exact absurd negation (Formula.not_ofNegation_of_read fails)
  · obtain fails | ⟨assumptions, -, fails⟩ := bind_eq_error.mp fails
    · exact absurd negation (Assumptions.not_ofNegation_of_read fails)
    · obtain ⟨-, filled⟩ := Formula.read_outcome_eq_ok.mp given
      obtain ⟨e, made⟩ | ⟨-, message, refused⟩ := ofFormula_eq_ok_or_strict opposite filled
      · rw [made] at fails
        contradiction
      · rw [refused] at fails
        cases fails
        contradiction

/-- **Whatever is asked of two sources** can be encoded, if the query can be denied and no warning
is in the way. -/
lemma ofSources_eq_ok_or_strict (given : (Formula.read clauses).outcome = .ok formula)
    (assumed : (Assumptions.read settings.layout.value assumptionSource).outcome = .ok assumptions)
    (opposite : query.opposite = .ok denied) :
    (∃ e, (ofSources settings clauses assumptionSource query).outcome = .ok e) ∨
      settings.strict.value = true ∧ ∃ message,
        (ofSources settings clauses assumptionSource query).outcome = .error (.strict message) := by
  obtain ⟨-, filled⟩ := Formula.read_outcome_eq_ok.mp given
  have outcome : (ofSources settings clauses assumptionSource query).outcome =
      (ofFormula settings formula assumptions query).outcome := by
    rw [ofSources_outcome rfl assumed, opposite, given]
    rfl
  rw [outcome]
  exact ofFormula_eq_ok_or_strict opposite filled

/-! ## The encoding -/

/-- Holds if the numbers in an encoding are those that are meant, and the query is denied. -/
structure Exact (policy : WeightPolicy) (formula : Formula) (assumptions : List Literal)
    (query : Literal) (e : Encoding) : Prop where
  topVar : e.formula.topVar = formula.topVar
  hardWeight : e.formula.hardWeight.toNat =
    policy.exactWeight formula.topVar.toNat assumptions.length
  usual : assumptions.length ≤ formula.topVar.toNat →
    e.formula.hardWeight.toNat = formula.topVar.toNat + 1
  softTotal : e.formula.softTotal.toNat =
    (e.formula.soft.map fun weighted => weighted.weight.toNat).sum
  /-- The clause behind those of the formula is hard, and it is the negation of the query. -/
  denied : ∃ denied : Literal, denied.value.toInt = -query.value.toInt ∧
    e.formula.clauses[formula.size]? = some ⟨e.formula.hardWeight, ⟨[denied]⟩⟩
  /-- The weights in a warning are those of the encoding. -/
  warned : ∀ hard soft, .weightDominated hard soft ∈ e.warnings →
    hard = e.formula.hardWeight ∧ soft.toNat = assumptions.length * softUnit.toNat

lemma toNat_softTotal {hardWeight : UInt64} (few : assumptions.length < 2 ^ 64 - 1) :
    (weightedFormula formula hardWeight denied assumptions).softTotal.toNat =
      ((weightedFormula formula hardWeight denied assumptions).soft.map
        fun weighted => weighted.weight.toNat).sum := by
  by_cases light : hardWeight ≤ softUnit
  · obtain ⟨-, soft, total⟩ := sides_of_light formula denied assumptions light
    rw [soft, total]
    rfl
  · obtain ⟨-, soft, total⟩ := sides_of_heavy formula denied (fun lost => light lost.1) few
    rw [soft, total]
    simp [Function.comp_def, assumptionClause, softUnit]

/-- **Nothing wraps on the way to an encoding.** -/
lemma exact_of_ofFormula (weights : WeightsExact formula.topVar assumptions.length)
    (few : assumptions.length < 2 ^ 64 - 1)
    (made : (ofFormula settings formula assumptions query).outcome = .ok e) :
    e.Exact settings.weight.value formula assumptions query := by
  obtain ⟨denied, opposite, rfl⟩ := eq_of_ofFormula_outcome made
  have weight : (weightedFormula formula (Encoding.hardWeight settings formula assumptions) denied
      assumptions).hardWeight =
        settings.weight.value.weigh formula.topVar assumptions.length.toUInt64 := by
    rw [weightedFormula_eq]
    rfl
  refine ⟨by rw [weightedFormula_eq], ?_, fun small => ?_, toNat_softTotal few,
    ⟨denied, Literal.toInt_of_opposite opposite, ?_⟩, fun hard soft warned => ?_⟩
  · rw [weight, weights.weigh]
  · rw [weight, weights.usual small, weights.next]
  · rw [weightedFormula_eq]
    simp [Formula.size]
  · obtain ⟨-, rfl, rfl⟩ := weightDominated_mem_warningsOf.mp warned
    exact ⟨weight.symm, weights.soft⟩

/-- **The arithmetic of encoding is exact.**  A formula that was read knows its greatest variable:
it is 0 only if there are no literals, and 2⁶³ only if the least literal is among them, and never
more.  With less than 2⁶⁴ - 1 assumptions, no number of the encoding wraps, and the query is denied
exactly.  The only refusals for an arithmetic reason are those of the query: one that is no literal,
and the one whose opposite does not fit; and these do not depend on the sources. -/
theorem encoding_exact (settings : Settings) (clauses assumptionSource : Source) (query : Literal) :
    (∀ formula, (Formula.read clauses).outcome = .ok formula → formula.TopVarExact ∧
      ∀ assumptions,
        (Assumptions.read settings.layout.value assumptionSource).outcome = .ok assumptions →
        assumptions.length < 2 ^ 64 - 1 →
          WeightsExact formula.topVar assumptions.length ∧
          (∀ e, (ofSources settings clauses assumptionSource query).outcome = .ok e →
            e.Exact settings.weight.value formula assumptions query) ∧
          (query ≠ .terminator → query ≠ .least →
            (∃ e, (ofSources settings clauses assumptionSource query).outcome = .ok e) ∨
            settings.strict.value = true ∧ ∃ message,
              (ofSources settings clauses assumptionSource query).outcome =
                .error (.strict message))) ∧
    ((ofSources settings clauses assumptionSource query).outcome = .error .zeroLiteral ↔
      query = .terminator) ∧
    ∀ l, (ofSources settings clauses assumptionSource query).outcome = .error (.unnegatable l) ↔
      l = .least ∧ query = .least := by
  refine ⟨fun formula given => ?_, ?_, fun l => ?_⟩
  · have topVar := Formula.topVarExact_of_read given
    refine ⟨topVar, fun assumptions assumed few => ?_⟩
    have weights := weightsExact topVar.le few
    refine ⟨weights, fun e encoded => ?_, fun literal notLeast => ?_⟩
    · obtain ⟨formula', assumptions', given', assumed', made⟩ := ofSources_eq_ok_iff.mp encoded
      obtain rfl := Except.ok.inj (given.symm.trans given')
      obtain rfl := Except.ok.inj (assumed.symm.trans assumed')
      exact exact_of_ofFormula weights few made
    · obtain ⟨denied, opposite⟩ := Literal.exists_opposite literal notLeast
      exact ofSources_eq_ok_or_strict given assumed opposite
  · rw [ofSources_eq_error_iff_of_ofNegation .zero, Literal.opposite_eq_error_iff]
    simp
  · rw [ofSources_eq_error_iff_of_ofNegation (.unnegatable l), Literal.opposite_eq_error_iff]
    constructor
    · rintro (⟨-, other⟩ | ⟨rfl, same⟩)
      · contradiction
      · exact ⟨Fault.unnegatable.inj same, rfl⟩
    · rintro ⟨rfl, rfl⟩
      exact .inr ⟨rfl, rfl⟩

/-- The least literal is read in a clause: its variable is 2⁶³, and a hard clause weighs one more.
As a query it is refused, also where nothing can be read. -/
theorem encoding_exact_of_least :
    let clauses := Source.ofText "-9223372036854775808 1 0\n0\n"
    let run := ofSources .default clauses (.ofText "1\n-3\n") ⟨-2⟩
    ∃ formula e, (Formula.read clauses).outcome = .ok formula ∧ run.outcome = .ok e ∧
      IsGreatest formula.vars (2 ^ 63) ∧
      e.formula.hardWeight.toNat = 2 ^ 63 + 1 ∧ e.formula.softTotal.toNat = 2 ∧
      e.formula.clauses[2]? = some ⟨e.formula.hardWeight, ⟨[⟨2⟩]⟩⟩ ∧
      (ofSources .default .unreadable .unreadable .least).outcome =
        .error (.unnegatable .least) ∧
      (ofSources .default .unreadable .unreadable .terminator).outcome = .error .zeroLiteral := by
  intro clauses run
  have given : (Formula.read clauses).outcome =
      .ok ⟨#[⟨[.least, ⟨1⟩]⟩, ⟨[]⟩], 9223372036854775808⟩ := by
    decide +kernel
  have assumed : (Assumptions.read Settings.default.layout.value (.ofText "1\n-3\n")).outcome =
      .ok [⟨1⟩, ⟨-3⟩] := rfl
  have weighted : run.outcome = .ok ⟨⟨9223372036854775808, 9223372036854775809,
      #[⟨9223372036854775809, ⟨[.least, ⟨1⟩]⟩⟩, ⟨9223372036854775809, ⟨[]⟩⟩,
        ⟨9223372036854775809, ⟨[⟨2⟩]⟩⟩, ⟨1, ⟨[⟨1⟩]⟩⟩, ⟨1, ⟨[⟨-3⟩]⟩⟩]⟩, []⟩ := by
    decide +kernel
  obtain ⟨read, -, -⟩ := encoding_exact .default clauses (.ofText "1\n-3\n") ⟨-2⟩
  obtain ⟨topVar, encodes⟩ := read _ given
  obtain ⟨-, exact, encoded⟩ := encodes _ assumed (by decide)
  obtain ⟨e, made⟩ | ⟨strict, -⟩ := encoded (by decide) (by decide)
  · have numbers := exact e made
    refine ⟨_, e, given, made, topVar.greatest ⟨1, ⟨[.least, ⟨1⟩]⟩, by decide, ⟨1⟩, by decide, rfl⟩,
      numbers.usual (by decide), ?_, ?_, ?_, ?_⟩
    · obtain rfl := Except.ok.inj (weighted.symm.trans made)
      exact numbers.softTotal.trans (by decide +kernel)
    · obtain ⟨denied, opposite, there⟩ := numbers.denied
      obtain rfl : denied = ⟨2⟩ := congrArg Literal.mk (Int64.toInt_inj.mp opposite)
      exact there
    · exact ((encoding_exact .default .unreadable .unreadable .least).2.2 .least).mpr ⟨rfl, rfl⟩
    · exact (encoding_exact .default .unreadable .unreadable .terminator).2.1.mpr rfl
  · contradiction

end Encoding

end AxiomPinpointing
