import AxiomPinpointing.Proofs.ModuleLoop

/-!
# Two strategies for pairs

The strategies only differ on a pair of definitions neither of which is the converse of the other
(`UnlikePair`): one strategy takes it for an equivalence, the other is at fault.  Extractions under
the two go hand in hand until there is such a pair in the module, and where they part the stricter
one ends.  So whatever it extracts, the other one extracts as well.
-/

namespace AxiomPinpointing

/-- The same choices, but for the strategy. -/
def Settings.under (settings : Settings) (strategy : PairStrategy) : Settings :=
  { settings with pairs := { settings.pairs with value := strategy } }

/-- Holds of two definitions neither of which is the converse of the other. -/
def UnlikePair (definitions : List Definition) : Prop :=
  ∃ first second, definitions = [first, second] ∧
    ¬ first.isReversedBy second ∧ ¬ second.isReversedBy first

/-- If a definition is the converse of another, then it is also the other way round. -/
lemma Definition.isReversedBy_comm (first second : Definition) :
    first.isReversedBy second = second.isReversedBy first := by
  rw [isReversedBy, isReversedBy]
  congr 1
  · rw [decide_eq_decide]
    exact eq_comm
  · cases first.terms? with
    | none => cases second.terms? <;> rfl
    | some terms =>
      cases second.terms? with
      | none => rfl
      | some others => exact decide_eq_decide.mpr (List.reverse_eq_iff.trans eq_comm)

namespace Axiom

variable {definitions : List Definition} {id : AxiomId}

/-- **Where the strategies agree.** -/
lemma ofDefinitions_of_not_unlikePair (alike : ¬ UnlikePair definitions) :
    ofDefinitions .converse id definitions = ofDefinitions .count id definitions := by
  match definitions with
  | [] => rfl
  | [_] => rfl
  | [first, second] =>
    have converse : first.isReversedBy second := by
      by_contra unlike
      exact alike ⟨first, second, rfl, unlike, second.isReversedBy_comm first ▸ unlike⟩
    exact if_pos converse
  | _ :: _ :: _ :: _ => rfl

/-- **Where they part.** -/
lemma ofDefinitions_of_unlikePair (unlike : UnlikePair definitions) :
    ofDefinitions .converse id definitions = .error (.ambiguousAxiom id 2) ∧
      ∃ a, ofDefinitions .count id definitions = .ok a := by
  obtain ⟨first, second, rfl, refused, -⟩ := unlike
  exact ⟨if_neg refused, .equivalence first, rfl⟩

/-- The stricter strategy finds no axiom that the other one does not find. -/
lemma ofDefinitions_count_of_converse {a : Axiom}
    (made : ofDefinitions .converse id definitions = .ok a) :
    ofDefinitions .count id definitions = .ok a := by
  rw [← made]
  refine (ofDefinitions_of_not_unlikePair fun unlike => ?_).symm
  rw [(ofDefinitions_of_unlikePair unlike).1] at made
  contradiction

/-- Nor does it let anything pass that the other one refuses. -/
lemma ofDefinitions_converse_of_error {fault : Fault}
    (fails : ofDefinitions .count id definitions = .error fault) :
    ofDefinitions .converse id definitions = .error fault := by
  rw [← fails]
  refine ofDefinitions_of_not_unlikePair fun unlike => ?_
  obtain ⟨a, made⟩ := (ofDefinitions_of_unlikePair unlike).2
  rw [fails] at made
  contradiction

end Axiom

namespace Extraction

open Axiom

variable {settings : Settings} {store : DefinitionStore} {ids : List AxiomId} {i : Nat}

/-- Holds if an extraction does not fail at the first `i + 1` numbers. -/
def GetsPast (settings : Settings) (store : DefinitionStore) (ids : List AxiomId) (i : Nat) : Prop :=
  (∃ e, (ofModule settings store ids).outcome = .ok e) ∨
    ∃ j fault, FailsAt settings store ids j fault ∧ i < j

lemma GetsPast.axiomOf (h : GetsPast settings store ids i) :
    ∀ id ∈ ids.take (i + 1), ∃ a, store.axiomOf settings.pairs.value id = .ok a := by
  intro id mem
  rcases h with all | ⟨j, fault, fails, later⟩
  · exact exists_ofModule_eq_ok_iff.mp all id (List.mem_of_mem_take mem)
  · exact (failsAt_iff.mp fails).1 id (List.take_subset_take_left ids later mem)

/-- **A fault of the lenient extraction** is a fault of the strict one, unless that failed before. -/
lemma exists_failsAt_converse_le {j : Nat} {fault : Fault}
    (fails : FailsAt (settings.under .count) store ids j fault) :
    ∃ i ≤ j, ∃ first, FailsAt (settings.under .converse) store ids i first ∧
      (i = j → first = fault) := by
  obtain ⟨-, id, here, refused⟩ := failsAt_iff.mp fails
  have strictly : store.axiomOf .converse id = .error fault :=
    ofDefinitions_converse_of_error refused
  obtain ⟨i, inTime, first, failsFirst⟩ :
      ∃ i ≤ j, ∃ first, FailsAt (settings.under .converse) store ids i first :=
    exists_failsAt_le here strictly
  refine ⟨i, inTime, first, failsFirst, ?_⟩
  rintro rfl
  obtain ⟨-, other, there, refusedFirst⟩ := failsAt_iff.mp failsFirst
  obtain rfl : id = other := Option.some.inj (here.symm.trans there)
  exact Except.error.inj (refusedFirst.symm.trans strictly)

/-- **Where only the strict extraction fails**, the first unlike pair of the module is. -/
lemma GetsPast.failsAt_converse_iff (past : GetsPast (settings.under .count) store ids i)
    (fault : Fault) : FailsAt (settings.under .converse) store ids i fault ↔
      ∃ id, ids[i]? = some id ∧ fault = .ambiguousAxiom id 2 ∧ UnlikePair (store.get id) ∧
        ∀ earlier ∈ ids.take i, ¬ UnlikePair (store.get earlier) := by
  constructor
  · intro fails
    obtain ⟨before, id, here, refused⟩ := failsAt_iff.mp fails
    have unlike : UnlikePair (store.get id) := by
      by_contra alike
      obtain ⟨a, made⟩ := past.axiomOf id (mem_take_of_getElem? here (Nat.lt_succ_self i))
      have clash := refused.symm.trans ((ofDefinitions_of_not_unlikePair alike).trans made)
      contradiction
    refine ⟨id, here, ?_, unlike, fun earlier mem alsoUnlike => ?_⟩
    · exact Except.error.inj (refused.symm.trans (ofDefinitions_of_unlikePair unlike).1)
    · obtain ⟨a, made⟩ := before earlier mem
      have clash := (ofDefinitions_of_unlikePair alsoUnlike).1.symm.trans made
      contradiction
  · rintro ⟨id, here, rfl, unlike, alike⟩
    refine failsAt_iff.mpr ⟨fun earlier mem => ?_, id, here, (ofDefinitions_of_unlikePair unlike).1⟩
    obtain ⟨a, made⟩ :=
      past.axiomOf earlier (List.take_subset_take_left ids (Nat.le_succ i) mem)
    exact ⟨a, (ofDefinitions_of_not_unlikePair (alike earlier mem)).trans made⟩

/-- **The stricter strategy refines the other one.**  What it extracts is what the other extracts.
If the other fails at some place, it fails there with the same fault, or earlier.  And if it fails at
a place that the other gets past, that is the place of the first number with exactly two definitions
that are not converses of one another, and its fault says so. -/
theorem converse_refines_count (settings : Settings) (store : DefinitionStore)
    (ids : List AxiomId) :
    let strict := settings.under .converse
    let lenient := settings.under .count
    (∀ strategy fault, (ofModule (settings.under strategy) store ids).outcome = .error fault ↔
      ∃ k, FailsAt (settings.under strategy) store ids k fault) ∧
    (∀ e, (ofModule strict store ids).outcome = .ok e →
      (ofModule lenient store ids).outcome = .ok e) ∧
    (∀ j fault, FailsAt lenient store ids j fault →
      ∃ i ≤ j, ∃ first, FailsAt strict store ids i first ∧ (i = j → first = fault)) ∧
    ∀ i, GetsPast lenient store ids i → ∀ fault, FailsAt strict store ids i fault ↔
      ∃ id, ids[i]? = some id ∧ fault = .ambiguousAxiom id 2 ∧ UnlikePair (store.get id) ∧
        ∀ earlier ∈ ids.take i, ¬ UnlikePair (store.get earlier) := by
  intro strict lenient
  refine ⟨fun strategy fault => ofModule_eq_error_iff, fun e extracted => ?_,
    fun j fault => exists_failsAt_converse_le, fun i past => past.failsAt_converse_iff⟩
  have all := exists_ofModule_eq_ok_iff.mp ⟨e, extracted⟩
  rw [← extracted]
  refine congrArg Run.outcome (ofModule_congr rfl fun id mem => ?_)
  obtain ⟨a, made⟩ := all id mem
  exact (ofDefinitions_count_of_converse made).trans made.symm

/-- Under 5 there are two definitions that are not converses of one another, and under 7 there are
three: the one strategy gets to the last place of the module, and the other to the last but one. -/
theorem converse_refines_count_on_four_numbers :
    let definitions := "1 a b\n3 (implies A B)\n3 (implies B A)\n5 (implies A B)\n" ++
      "5 (implies A C)\n7 a b\n7 b a\n7 a b\n"
    let store := (DefinitionStore.empty.readSource .gci (.ofText definitions)).state
    let ids : List AxiomId := [⟨1⟩, ⟨3⟩, ⟨5⟩, ⟨7⟩]
    let strict := Settings.default.under .converse
    let lenient := Settings.default.under .count
    FailsAt lenient store ids 3 (.ambiguousAxiom ⟨7⟩ 3) ∧
      FailsAt strict store ids 2 (.ambiguousAxiom ⟨5⟩ 2) ∧
      (∃ i ≤ 3, ∃ first, FailsAt strict store ids i first ∧
        (i = 3 → first = .ambiguousAxiom ⟨7⟩ 3)) ∧
      UnlikePair (store.get ⟨5⟩) ∧
      ∃ e, (ofModule strict store (ids.take 2)).outcome = .ok e ∧
        (ofModule lenient store (ids.take 2)).outcome = .ok e := by
  intro definitions store ids strict lenient
  obtain ⟨-, -, noLater, parting⟩ := converse_refines_count .default store ids
  have last : FailsAt lenient store ids 3 (.ambiguousAxiom ⟨7⟩ 3) := ⟨⟨_, rfl⟩, rfl⟩
  have lastButOne : FailsAt strict store ids 2 (.ambiguousAxiom ⟨5⟩ 2) := ⟨⟨_, rfl⟩, rfl⟩
  have past : GetsPast lenient store ids 2 := .inr ⟨3, _, last, by decide⟩
  obtain ⟨id, here, -, unlike, -⟩ := (parting 2 past _).mp lastButOne
  obtain rfl : (⟨5⟩ : AxiomId) = id := Option.some.inj here
  obtain ⟨e, extracted⟩ := lastButOne.before
  obtain ⟨-, kept, -⟩ := converse_refines_count .default store (ids.take 2)
  exact ⟨last, lastButOne, noLater 3 _ last, unlike, e, extracted, kept e extracted⟩

end Extraction

end AxiomPinpointing
