import AxiomPinpointing.Proofs.FormulaText
import AxiomPinpointing.Proofs.Warnings

/-!
# Strictness and weight policies

Two settings bear on whether a question is encoded at all.  **Strictness** makes the first warning a
fault, and does nothing else: a strict run is a lenient one, filtered.  The **weight policy** decides
what hard clauses weigh, and so only what the last warning is.

Both are compared on sources.  What is read from these, and what is wrong with them, depends on
neither setting (`ofSources_eq_bind`), so that the runs can only part ways once there is a question:
a formula with a clause in it, assumptions, and a query that can be denied.  From there on everything
follows from the list of warnings.  As it is empty for one policy exactly if it is for the other, the
policy makes no difference to a strict run.

* `StrictFilters` — a strict run as the filter of a lenient one.
* `AgreeButWeight` — two encodings that differ in their weights only.
-/

namespace AxiomPinpointing

/-! ## The warnings in a log -/

namespace Run

variable {α β γ : Type}

/-- The warnings about an encoding that were logged, in order. -/
def encodeWarnings (run : Run α) : List String :=
  (run.log.filter fun message => message.level = .warn ∧ message.topic = .encode).map Message.text

lemma bind_assoc (run : Run α) (f : α → Run β) (g : β → Run γ) :
    run >>= f >>= g = run >>= fun a => f a >>= g := by
  cases first : run.outcome with
  | error fault =>
    rw [bind_of_error first, bind_of_error first, bind_of_error rfl]
  | ok a =>
    rw [bind_of_ok first, bind_of_ok first]
    cases second : (f a).outcome with
    | error fault =>
      rw [bind_of_error second, bind_of_error rfl]
    | ok b =>
      rw [bind_of_ok second, bind_of_ok rfl, List.append_assoc]

lemma encodeWarnings_bind_of_ok {run : Run α} {a : α} (h : run.outcome = .ok a) (next : α → Run β) :
    (run >>= next).encodeWarnings = run.encodeWarnings ++ (next a).encodeWarnings := by
  rw [bind_of_ok h]
  simp only [encodeWarnings, List.filter_append, List.map_append]

lemma encodeWarnings_bind_of_error {run : Run α} {fault : Fault} (h : run.outcome = .error fault)
    (next : α → Run β) : (run >>= next).encodeWarnings = run.encodeWarnings := by
  rw [bind_of_error h]
  rfl

/-- What is joined from parts without warnings is without warnings. -/
lemma encodeWarnings_bind_of_quiet {run : Run α} (quiet : run.encodeWarnings = [])
    {next : α → Run β} (rest : ∀ a, (next a).encodeWarnings = []) :
    (run >>= next).encodeWarnings = [] := by
  cases h : run.outcome with
  | error fault => rw [encodeWarnings_bind_of_error h, quiet]
  | ok a => rw [encodeWarnings_bind_of_ok h, quiet, rest, List.append_nil]

lemma encodeWarnings_ofExcept (outcome : Except Fault α) :
    (ofExcept outcome).encodeWarnings = [] := rfl

lemma encodeWarnings_tell (warnings : List Warning) :
    (tell (warnings.map fun warning => ⟨.warn, .encode, warning.message⟩)).encodeWarnings =
      warnings.map Warning.message := by
  simp [tell, encodeWarnings, List.filter_map, Function.comp_def]

end Run

/-! ## Reading the question -/

/-- The settings with another choice of strictness and policy. -/
def Settings.choosing (settings : Settings) (strict : Bool) (policy : WeightPolicy) : Settings :=
  { settings with
    strict := { settings.strict with value := strict }
    weight := { settings.weight with value := policy } }

namespace Encoding

/-- What is read before anything is encoded: a formula, and what is assumed.  The query is looked at
first. -/
def readQuestion (layout : AssumptionLayout) (clauses assumptionSource : Source) (query : Literal) :
    Run (Formula × List Literal) := do
  let _ ← Run.ofExcept query.opposite
  let formula ← Formula.read clauses
  let assumptions ← Assumptions.read layout assumptionSource
  pure (formula, assumptions)

section Question

variable {layout : AssumptionLayout} {clauses assumptionSource : Source} {query : Literal}

/-- **Only the layout matters to what is read**, and the other settings to what is made of it. -/
lemma ofSources_eq_bind (settings : Settings) (clauses assumptionSource : Source)
    (query : Literal) :
    ofSources settings clauses assumptionSource query =
      readQuestion settings.layout.value clauses assumptionSource query >>= fun asked =>
        ofFormula settings asked.1 asked.2 query := by
  have pure_bind : ∀ asked : Formula × List Literal,
      (pure asked >>= fun asked => ofFormula settings asked.1 asked.2 query) =
        ofFormula settings asked.1 asked.2 query := fun _ => rfl
  simp only [readQuestion, Run.bind_assoc, pure_bind]
  rfl

lemma encodeWarnings_readQuestion (layout : AssumptionLayout) (clauses assumptionSource : Source)
    (query : Literal) : (readQuestion layout clauses assumptionSource query).encodeWarnings = [] := by
  refine Run.encodeWarnings_bind_of_quiet rfl fun _ => ?_
  refine Run.encodeWarnings_bind_of_quiet ?_ fun _ => ?_
  · refine Run.encodeWarnings_bind_of_quiet rfl fun formula => ?_
    split_ifs
    · rfl
    · exact Run.encodeWarnings_bind_of_quiet rfl fun _ => rfl
  · refine Run.encodeWarnings_bind_of_quiet ?_ fun _ => rfl
    refine Run.encodeWarnings_bind_of_quiet rfl fun _ => ?_
    exact Run.encodeWarnings_bind_of_quiet rfl fun _ => rfl

/-- What is known of a question that has been read. -/
structure Asked (query : Literal) (formula : Formula) : Prop where
  deniable : ∃ denied, query.opposite = .ok denied
  filled : formula.clauses.isEmpty = false
  low : formula.topVar.toNat ≤ 2 ^ 63

lemma asked_of_readQuestion {formula : Formula} {assumptions : List Literal}
    (h : (readQuestion layout clauses assumptionSource query).outcome =
      .ok (formula, assumptions)) :
    Asked query formula ∧ (Assumptions.read layout assumptionSource).outcome = .ok assumptions := by
  obtain ⟨denied, opposite, h⟩ := Run.bind_outcome_eq_ok.mp h
  obtain ⟨formula', given, h⟩ := Run.bind_outcome_eq_ok.mp h
  obtain ⟨assumptions', assumed, h⟩ := Run.bind_outcome_eq_ok.mp h
  cases h
  obtain ⟨written, filled⟩ := Formula.written_of_read given
  refine ⟨⟨⟨denied, opposite⟩, ?_, ?_⟩, assumed⟩
  · rwa [Array.isEmpty_eq_false_iff, ne_eq, ← Array.toList_eq_nil_iff]
  · rw [written.pushed]
    exact Formula.toNat_topVar_ofList_le _

end Question

/-! ## What is made of it -/

/-- What comes of an encoding once its warnings are judged. -/
def judged (strict : Bool) (e : Encoding) : Except Fault Encoding :=
  match strict, e.warnings with
  | true, warning :: _ => .error (.strict warning.message)
  | _, _ => .ok e

lemma judged_of_nil (strict : Bool) {e : Encoding} (none : e.warnings = []) :
    judged strict e = .ok e := by
  unfold judged
  rw [none]
  cases strict <;> rfl

lemma judged_of_cons {e : Encoding} {warning : Warning} {rest : List Warning}
    (warned : e.warnings = warning :: rest) : judged true e = .error (.strict warning.message) := by
  unfold judged
  rw [warned]

section Answer

variable {settings : Settings} {formula : Formula} {assumptions : List Literal}
  {query denied : Literal}

lemma ofFormula_outcome_of_asked (asked : Asked query formula)
    (opposite : query.opposite = .ok denied) :
    (ofFormula settings formula assumptions query).outcome = judged settings.strict.value
      ⟨weightedFormula formula (hardWeight settings formula assumptions) denied assumptions,
        oddities settings formula assumptions query⟩ := by
  rw [ofFormula_outcome, opposite]
  simp only [asked.filled, Bool.false_eq_true, if_false]
  cases settings.strict.value with
  | false => rfl
  | true =>
    unfold judged
    cases oddities settings formula assumptions query <;> rfl

/-- **All warnings are logged**, whatever becomes of the encoding. -/
lemma encodeWarnings_of_asked (asked : Asked query formula) :
    (ofFormula settings formula assumptions query).encodeWarnings =
      (oddities settings formula assumptions query).map Warning.message := by
  obtain ⟨denied, opposite⟩ := asked.deniable
  rw [ofFormula, Run.encodeWarnings_bind_of_ok (a := denied) opposite]
  simp only [asked.filled, Bool.false_eq_true, if_false]
  rw [Run.encodeWarnings_bind_of_ok (a := ()) rfl, Run.encodeWarnings_tell,
    Run.encodeWarnings_ofExcept, List.nil_append]
  refine (congrArg (_ ++ ·) ?_).trans (List.append_nil _)
  split
  · rfl
  · exact Run.encodeWarnings_bind_of_quiet rfl fun _ => rfl

end Answer

/-! ## Strict runs -/

/-- **A strict run is the lenient one, filtered.** -/
structure StrictFilters (strict lenient : Run Encoding) : Prop where
  /-- It lets encodings pass that have no warnings. -/
  accepts : ∀ e, strict.outcome = .ok e ↔ lenient.outcome = .ok e ∧ e.warnings = []
  /-- Of the others it reports the first warning. -/
  refuses : ∀ e warning rest, lenient.outcome = .ok e → e.warnings = warning :: rest →
    strict.outcome = .error (.strict warning.message)
  /-- Faults stay as they are. -/
  faults : ∀ fault, lenient.outcome = .error fault → strict.outcome = .error fault
  /-- Both log all warnings. -/
  logs : ∀ e, lenient.outcome = .ok e →
    strict.encodeWarnings = e.warnings.map Warning.message ∧
    lenient.encodeWarnings = e.warnings.map Warning.message
  /-- Where there is no encoding, there is no warning either. -/
  quiet : ∀ fault, lenient.outcome = .error fault →
    strict.encodeWarnings = [] ∧ lenient.encodeWarnings = []

lemma strictFilters_of_judged {strict lenient : Run Encoding} {e : Encoding}
    (judges : strict.outcome = judged true e) (passes : lenient.outcome = judged false e)
    (logs : strict.encodeWarnings = e.warnings.map Warning.message)
    (alike : lenient.encodeWarnings = strict.encodeWarnings) : StrictFilters strict lenient := by
  have passes : lenient.outcome = .ok e := passes
  constructor
  · intro e'
    rw [judges, passes]
    cases warned : e.warnings with
    | nil =>
      simp only [judged_of_nil true warned, Except.ok.injEq, iff_self_and]
      rintro rfl
      exact warned
    | cons warning rest =>
      simp only [judged_of_cons warned, reduceCtorEq, Except.ok.injEq, false_iff, not_and]
      rintro rfl
      simp [warned]
  · intro e' warning rest found warned
    obtain rfl := Except.ok.inj (passes.symm.trans found)
    rw [judges, judged_of_cons warned]
  · intro fault found
    rw [passes] at found
    contradiction
  · intro e' found
    obtain rfl := Except.ok.inj (passes.symm.trans found)
    exact ⟨logs, alike.trans logs⟩
  · intro fault found
    rw [passes] at found
    contradiction

lemma strictFilters_of_error {strict lenient : Run Encoding} {fault : Fault}
    (stopped : strict.outcome = .error fault) (alike : lenient = strict)
    (quiet : strict.encodeWarnings = []) : StrictFilters strict lenient := by
  subst alike
  constructor
  · intro e
    simp [stopped]
  · intro e warning rest found
    rw [stopped] at found
    contradiction
  · exact fun _ found => found
  · intro e found
    rw [stopped] at found
    contradiction
  · exact fun _ _ => ⟨quiet, quiet⟩

/-! ## The two policies -/

/-- **Two encodings of one question**, under the policy that looks at variables only and under the
dominant one. -/
structure AgreeButWeight (assumptions : List Literal) (plain dominant : Encoding) : Prop where
  topVar : dominant.formula.topVar = plain.formula.topVar
  /-- The clauses are the same, and the hard ones have the hard weight of either encoding. -/
  clauses : ∃ hard : List Clause, ∀ e ∈ [plain, dominant], e.formula.clauses.toList =
    hard.map (⟨e.formula.hardWeight, ·⟩) ++ assumptions.map (fun l => ⟨1, ⟨[l]⟩⟩)
  /-- Without more assumptions than variables, there is no difference at all. -/
  few : assumptions.length ≤ plain.formula.topVar.toNat → dominant = plain
  /-- With more of them, the last warning is not the same. -/
  many : plain.formula.topVar.toNat < assumptions.length → ∃ common,
    plain.warnings = common ++
      [.weightDominated plain.formula.hardWeight assumptions.length.toUInt64] ∧
    dominant.warnings = common ++
      [.weightRaised dominant.formula.hardWeight plain.formula.topVar]

section Policies

variable {formula : Formula} {assumptions : List Literal}

/-- The encoding of a question under a policy, whatever its warnings. -/
def underPolicy (settings : Settings) (formula : Formula) (assumptions : List Literal)
    (query denied : Literal) (policy : WeightPolicy) : Encoding :=
  ⟨weightedFormula formula (hardWeight (settings.choosing false policy) formula assumptions) denied
      assumptions,
    oddities (settings.choosing false policy) formula assumptions query⟩

/-- Strictness neither changes the weights nor the warnings. -/
lemma outcome_choosing {query denied : Literal} (asked : Asked query formula)
    (opposite : query.opposite = .ok denied) (settings : Settings) (strict : Bool)
    (policy : WeightPolicy) :
    (ofFormula (settings.choosing strict policy) formula assumptions query).outcome =
      judged strict (underPolicy settings formula assumptions query denied policy) :=
  ofFormula_outcome_of_asked asked opposite

variable (settings : Settings) (query denied : Literal)

lemma underPolicy_eq_of_few (low : formula.topVar.toNat < 2 ^ 64 - 1)
    (few : assumptions.length ≤ formula.topVar.toNat) :
    underPolicy settings formula assumptions query denied .dominant =
      underPolicy settings formula assumptions query denied .topVar := by
  have weight : ∀ policy, hardWeight (settings.choosing false policy) formula assumptions =
      formula.topVar + 1 := fun policy => hardWeight_of_few _ low few
  have odd : ∀ policy, oddities (settings.choosing false policy) formula assumptions query =
      inputOddities settings.layout.value formula.topVar assumptions query := by
    intro policy
    rw [oddities_eq _ low (by omega), if_neg (by omega), List.append_nil]
    rfl
  rw [underPolicy, underPolicy, weight, weight, odd, odd]

lemma warnings_underPolicy_of_many (low : formula.topVar.toNat < 2 ^ 64 - 1)
    (few : assumptions.length < 2 ^ 64 - 1) (many : formula.topVar.toNat < assumptions.length)
    (policy : WeightPolicy) :
    (underPolicy settings formula assumptions query denied policy).warnings =
      inputOddities settings.layout.value formula.topVar assumptions query ++
        [policy.oddity formula.topVar
          (hardWeight (settings.choosing false policy) formula assumptions)
          assumptions.length.toUInt64] := by
  rw [underPolicy, oddities_eq _ low few, if_pos many]
  rfl

lemma formula_underPolicy (policy : WeightPolicy) :
    (underPolicy settings formula assumptions query denied policy).formula =
      { topVar := formula.topVar
        hardWeight := hardWeight (settings.choosing false policy) formula assumptions
        clauses := ((formula.clauses.toList ++ [Clause.mk [denied]]).map (WeightedClause.mk
          (hardWeight (settings.choosing false policy) formula assumptions)) ++
          assumptions.map assumptionClause).toArray } :=
  weightedFormula_eq _ _ _ _

lemma agreeButWeight_underPolicy (low : formula.topVar.toNat < 2 ^ 64 - 1)
    (few : assumptions.length < 2 ^ 64 - 1) :
    AgreeButWeight assumptions (underPolicy settings formula assumptions query denied .topVar)
      (underPolicy settings formula assumptions query denied .dominant) := by
  have written : ∀ policy,
      (underPolicy settings formula assumptions query denied policy).formula = _ :=
    formula_underPolicy settings query denied
  constructor
  · rw [written, written]
  · refine ⟨formula.clauses.toList ++ [⟨[denied]⟩], fun e mem => ?_⟩
    simp only [List.mem_cons, List.not_mem_nil, or_false] at mem
    rcases mem with rfl | rfl
    · rw [written]
      rfl
    · rw [written]
      rfl
  · rw [written]
    exact underPolicy_eq_of_few settings query denied low
  · rw [written, written]
    intro many
    have warned := warnings_underPolicy_of_many settings query denied low few many
    exact ⟨inputOddities settings.layout.value formula.topVar assumptions query, warned .topVar,
      warned .dominant⟩

/-- Strictly, the policies let the same encodings pass: where they do not agree, both have a
warning. -/
lemma judged_underPolicy (low : formula.topVar.toNat < 2 ^ 64 - 1)
    (few : assumptions.length < 2 ^ 64 - 1) (e : Encoding) :
    judged true (underPolicy settings formula assumptions query denied .topVar) = .ok e ↔
      judged true (underPolicy settings formula assumptions query denied .dominant) = .ok e := by
  by_cases many : formula.topVar.toNat < assumptions.length
  · have refused : ∀ policy,
        judged true (underPolicy settings formula assumptions query denied policy) ≠ .ok e := by
      intro policy
      have warned := warnings_underPolicy_of_many settings query denied low few many policy
      obtain ⟨warning, rest, first⟩ := List.exists_cons_of_ne_nil (List.append_ne_nil_of_right_ne_nil
        (inputOddities settings.layout.value formula.topVar assumptions query)
        (List.cons_ne_nil (policy.oddity formula.topVar (hardWeight
          (settings.choosing false policy) formula assumptions) assumptions.length.toUInt64) []))
      rw [judged_of_cons (warned.trans first)]
      simp
    exact iff_of_false (refused .topVar) (refused .dominant)
  · rw [underPolicy_eq_of_few settings query denied low (by omega)]

end Policies

/-- **Strict runs are lenient runs, filtered, and the policy makes no difference to them.** -/
theorem strict_filters_and_policies_agree (settings : Settings) (clauses assumptionSource : Source)
    (query : Literal)
    (few : ∀ assumptions, (Assumptions.read settings.layout.value assumptionSource).outcome =
      .ok assumptions → assumptions.length < 2 ^ 64 - 1) :
    let run (strict : Bool) (policy : WeightPolicy) :=
      ofSources (settings.choosing strict policy) clauses assumptionSource query
    (∀ policy, StrictFilters (run true policy) (run false policy)) ∧
    (∀ e, (run true .topVar).outcome = .ok e ↔ (run true .dominant).outcome = .ok e) ∧
    match (run false .topVar).outcome, (run false .dominant).outcome with
    | .ok e, .ok e' =>
      ∃ assumptions, (Assumptions.read settings.layout.value assumptionSource).outcome =
        .ok assumptions ∧ AgreeButWeight assumptions e e'
    | .error fault, .error fault' => fault = fault'
    | _, _ => False := by
  intro run
  have bound : ∀ strict policy, run strict policy =
      readQuestion settings.layout.value clauses assumptionSource query >>= fun asked =>
        ofFormula (settings.choosing strict policy) asked.1 asked.2 query :=
    fun strict policy => ofSources_eq_bind _ clauses assumptionSource query
  have silent := encodeWarnings_readQuestion settings.layout.value clauses assumptionSource query
  cases reading : (readQuestion settings.layout.value clauses assumptionSource query).outcome with
  | error fault =>
    have stopped : ∀ strict policy, (run strict policy).outcome = .error fault := by
      intro strict policy
      rw [bound, Run.bind_of_error reading]
    have alike : ∀ policy, run false policy = run true policy := by
      intro policy
      rw [bound, bound, Run.bind_of_error reading, Run.bind_of_error reading]
    refine ⟨fun policy => ?_, fun e => ?_, ?_⟩
    · refine strictFilters_of_error (stopped true policy) (alike policy) ?_
      rw [bound, Run.encodeWarnings_bind_of_error reading, silent]
    · rw [stopped, stopped]
    · rw [stopped, stopped]
  | ok question =>
    obtain ⟨formula, assumptions⟩ := question
    obtain ⟨asked, assumed⟩ := asked_of_readQuestion reading
    obtain ⟨denied, opposite⟩ := asked.deniable
    have low : formula.topVar.toNat < 2 ^ 64 - 1 := by
      have := asked.low
      omega
    have fits := few assumptions assumed
    have outcome : ∀ strict policy, (run strict policy).outcome =
        judged strict (underPolicy settings formula assumptions query denied policy) := by
      intro strict policy
      rw [bound, Run.bind_outcome, reading]
      exact outcome_choosing asked opposite settings strict policy
    have logs : ∀ strict policy, (run strict policy).encodeWarnings =
        (underPolicy settings formula assumptions query denied policy).warnings.map
          Warning.message := by
      intro strict policy
      rw [bound, Run.encodeWarnings_bind_of_ok reading, silent, List.nil_append]
      exact encodeWarnings_of_asked asked
    refine ⟨fun policy => ?_, fun e => ?_, ?_⟩
    · exact strictFilters_of_judged (outcome true policy) (outcome false policy) (logs true policy)
        ((logs false policy).trans (logs true policy).symm)
    · rw [outcome, outcome]
      exact judged_underPolicy settings query denied low fits e
    · rw [outcome, outcome]
      exact ⟨assumptions, assumed, agreeButWeight_underPolicy settings query denied low fits⟩

/-- A query beyond the only variable, and more assumptions than that.  There are two warnings, the
second of them for the policy; strictly, the first is the fault, and both are logged. -/
theorem strict_filters_of_many_assumptions :
    let run (strict : Bool) (policy : WeightPolicy) :=
      ofSources (Settings.default.choosing strict policy) (.ofText "1 0\n") (.ofText "1\n-1\n") ⟨2⟩
    ∃ plain dominant, (run false .topVar).outcome = .ok plain ∧
      (run false .dominant).outcome = .ok dominant ∧
      plain.warnings = [.queryBeyond ⟨2⟩ 1, .weightDominated 2 2] ∧
      dominant.warnings = [.queryBeyond ⟨2⟩ 1, .weightRaised 3 1] ∧
      AgreeButWeight [⟨1⟩, ⟨-1⟩] plain dominant ∧
      (run true .topVar).outcome = .error (.strict (Warning.queryBeyond ⟨2⟩ 1).message) ∧
      (run true .topVar).encodeWarnings = plain.warnings.map Warning.message := by
  intro run
  have assumed : (Assumptions.read Settings.default.layout.value (.ofText "1\n-1\n")).outcome =
      .ok [⟨1⟩, ⟨-1⟩] := rfl
  obtain ⟨filters, -, policies⟩ := strict_filters_and_policies_agree .default (.ofText "1 0\n")
    (.ofText "1\n-1\n") ⟨2⟩ (by
      intro assumptions read
      obtain rfl := Except.ok.inj (assumed.symm.trans read)
      decide)
  have plain : (run false .topVar).outcome = .ok ⟨⟨1, 2, #[⟨2, ⟨[⟨1⟩]⟩⟩, ⟨2, ⟨[⟨-2⟩]⟩⟩, ⟨1, ⟨[⟨1⟩]⟩⟩,
      ⟨1, ⟨[⟨-1⟩]⟩⟩]⟩, [.queryBeyond ⟨2⟩ 1, .weightDominated 2 2]⟩ := rfl
  have dominant : (run false .dominant).outcome = .ok ⟨⟨1, 3, #[⟨3, ⟨[⟨1⟩]⟩⟩, ⟨3, ⟨[⟨-2⟩]⟩⟩,
      ⟨1, ⟨[⟨1⟩]⟩⟩, ⟨1, ⟨[⟨-1⟩]⟩⟩]⟩, [.queryBeyond ⟨2⟩ 1, .weightRaised 3 1]⟩ := rfl
  refine ⟨_, _, plain, dominant, rfl, rfl, ?_, (filters .topVar).refuses _ _ _ plain rfl,
    ((filters .topVar).logs _ plain).1⟩
  rw [plain, dominant] at policies
  obtain ⟨assumptions, read, agree⟩ := policies
  obtain rfl := Except.ok.inj (assumed.symm.trans read)
  exact agree

end Encoding

end AxiomPinpointing
