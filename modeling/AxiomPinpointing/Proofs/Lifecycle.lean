import AxiomPinpointing.Proofs.Arrivals
import AxiomPinpointing.Proofs.ModuleLoop

/-!
# The life of a number

As the definitions of a number arrive, the axiom behind it develops: from none at all to an
inclusion, then to an equivalence, or to an ambiguity if the strategy does not take the two
definitions for one, and from the third definition on to an ambiguity whose count is exact
(`Axiom.Develops`).  There is no way back.  In particular an ambiguous number stays ambiguous
(`Axiom.DevelopsBy.of_ambiguous`), and so an extraction that fails because of one fails for good.

Definitions of other numbers do not matter to a number, nor to a module that does not list them.
-/

namespace AxiomPinpointing

namespace Axiom

/-! ## One definition more -/

/-- What the arrival of a definition makes of the axiom behind its number. -/
inductive Develops (strategy : PairStrategy) (id : AxiomId) (d : Definition) :
    Except Fault Axiom → Except Fault Axiom → Prop
  | defined : Develops strategy id d (.error (.undefinedAxiom id)) (.ok (.directional d))
  | paired {first : Definition} (converse : strategy = .converse → first.isReversedBy d) :
      Develops strategy id d (.ok (.directional first)) (.ok (.equivalence first))
  | refused {first : Definition} (strict : strategy = .converse)
      (unlike : ¬ first.isReversedBy d) :
      Develops strategy id d (.ok (.directional first)) (.error (.ambiguousAxiom id 2))
  | crowded {first : Definition} :
      Develops strategy id d (.ok (.equivalence first)) (.error (.ambiguousAxiom id 3))
  | counted {n : Nat} (several : 2 ≤ n) :
      Develops strategy id d (.error (.ambiguousAxiom id n)) (.error (.ambiguousAxiom id (n + 1)))

/-- What the arrival of some definitions makes of it, one after the other. -/
inductive DevelopsBy (strategy : PairStrategy) (id : AxiomId) :
    List Definition → Except Fault Axiom → Except Fault Axiom → Prop
  | nil {outcome : Except Fault Axiom} : DevelopsBy strategy id [] outcome outcome
  | cons {d : Definition} {rest : List Definition} {before now after : Except Fault Axiom}
      (first : Develops strategy id d before now) (others : DevelopsBy strategy id rest now after) :
      DevelopsBy strategy id (d :: rest) before after

section

variable {strategy : PairStrategy} {id : AxiomId} {d : Definition}
  {definitions arriving : List Definition} {before after : Except Fault Axiom} {n : Nat}

/-- **One definition more.** -/
lemma develops_concat (strategy : PairStrategy) (id : AxiomId) (definitions : List Definition)
    (d : Definition) :
    Develops strategy id d (ofDefinitions strategy id definitions)
      (ofDefinitions strategy id (definitions ++ [d])) := by
  match definitions with
  | [] => exact .defined
  | [first] =>
    simp only [List.cons_append, List.nil_append, ofDefinitions]
    split
    next accepted =>
      refine .paired fun converse => ?_
      rwa [converse] at accepted
    next unlike =>
      cases strategy with
      | count => exact absurd rfl unlike
      | converse => exact .refused rfl unlike
  | [first, second] =>
    simp only [List.cons_append, List.nil_append, ofDefinitions]
    split
    next => exact .crowded
    next => exact .counted (Nat.le_refl 2)
  | _ :: _ :: _ :: others =>
    simp only [List.cons_append, ofDefinitions, List.length_cons, List.length_append,
      List.length_nil]
    exact .counted (by omega)

/-- **Some definitions more.** -/
lemma developsBy_append (strategy : PairStrategy) (id : AxiomId)
    (definitions arriving : List Definition) :
    DevelopsBy strategy id arriving (ofDefinitions strategy id definitions)
      (ofDefinitions strategy id (definitions ++ arriving)) := by
  induction arriving generalizing definitions with
  | nil =>
    rw [List.append_nil]
    exact .nil
  | cons d arriving ih =>
    have others := ih (definitions ++ [d])
    rw [List.append_assoc, List.singleton_append] at others
    exact .cons (develops_concat strategy id definitions d) others

/-- **An ambiguity stays**, and its count grows by every definition. -/
lemma DevelopsBy.of_ambiguous
    (h : DevelopsBy strategy id arriving (.error (.ambiguousAxiom id n)) after) :
    after = .error (.ambiguousAxiom id (n + arriving.length)) := by
  generalize begun : Except.error (Fault.ambiguousAxiom id n) = before at h
  induction h generalizing n with
  | nil => exact begun.symm
  | cons first _ ih =>
    subst begun
    -- from an ambiguity there is only the step to the next one
    cases first with
    | counted =>
      rw [List.length_cons, ih rfl]
      congr 2
      omega

end

end Axiom

namespace DefinitionStore

open Axiom Extraction

/-! ## Numbers and extractions over time -/

variable {settings : Settings} {store : DefinitionStore} {ids : List AxiomId}

/-- **The axiom behind a number develops** by the definitions of that number. -/
lemma developsBy_foldl_receive (store : DefinitionStore) (further : List Arrival)
    (strategy : PairStrategy) (id : AxiomId) :
    DevelopsBy strategy id ((further.flatMap Arrival.definitions).filter (·.id = id))
      (store.axiomOf strategy id) ((further.foldl receive store).axiomOf strategy id) := by
  rw [axiomOf, axiomOf, get_foldl_receive]
  exact developsBy_append strategy id _ _

lemma axiomOf_foldl_receive_of_absent {further : List Arrival} {id : AxiomId}
    (absent : ∀ d ∈ further.flatMap Arrival.definitions, d.id ≠ id) (strategy : PairStrategy) :
    (further.foldl receive store).axiomOf strategy id = store.axiomOf strategy id := by
  have none : (further.flatMap Arrival.definitions).filter (·.id = id) = [] :=
    List.filter_eq_nil_iff.mpr fun d mem => by simpa using absent d mem
  rw [axiomOf, axiomOf, get_foldl_receive, none, List.append_nil]

/-- If an ambiguous number is the first without an axiom, all up to it have definitions. -/
lemma get_ne_nil_of_failsAt {id other : AxiomId} {i k n : Nat}
    (fails : FailsAt settings store ids k (.ambiguousAxiom id n)) (upTo : i ≤ k)
    (there : ids[i]? = some other) : store.get other ≠ [] := by
  obtain ⟨before, own, here, ambiguous⟩ := failsAt_iff.mp fails
  intro none
  have undefined : store.axiomOf settings.pairs.value other = .error (.undefinedAxiom other) := by
    rw [axiomOf, none]
    rfl
  rcases Nat.lt_or_eq_of_le upTo with sooner | rfl
  · obtain ⟨a, made⟩ := before other (mem_take_of_getElem? there sooner)
    rw [undefined] at made
    contradiction
  · obtain rfl : own = other := Option.some.inj (here.symm.trans there)
    rw [undefined] at ambiguous
    injections

/-- **An extraction that fails because of an ambiguous number** fails for good, though it may be
another number that is found ambiguous first. -/
lemma ambiguous_foldl_receive (further : List Arrival) {id : AxiomId} {n : Nat}
    (failed : (ofModule settings store ids).outcome = .error (.ambiguousAxiom id n)) :
    ∃ other ∈ ids, ∃ count, (ofModule settings (further.foldl receive store) ids).outcome =
      .error (.ambiguousAxiom other count) := by
  obtain ⟨k, fails⟩ := ofModule_eq_error_iff.mp failed
  obtain ⟨-, own, here, ambiguous⟩ := failsAt_iff.mp fails
  obtain rfl : id = own := by
    rcases error_of_ofDefinitions ambiguous with ⟨-, same⟩ | ⟨-, same⟩
    · injections
    · injection same
  have develops := developsBy_foldl_receive store further settings.pairs.value id
  rw [ambiguous] at develops
  -- the number is still ambiguous; what fails before it was known, and so can only be ambiguous too
  obtain ⟨i, upTo, fault, failsNow⟩ := exists_failsAt_le here develops.of_ambiguous
  obtain ⟨-, other, there, refused⟩ := failsAt_iff.mp failsNow
  rcases error_of_ofDefinitions refused with ⟨none, -⟩ | ⟨-, rfl⟩
  · rw [get_foldl_receive] at none
    exact absurd (List.append_eq_nil_iff.mp none).1 (get_ne_nil_of_failsAt fails upTo there)
  · exact ⟨other, List.mem_of_getElem? there, _, ofModule_eq_error_iff.mpr ⟨i, failsNow⟩⟩

/-- **The life of a number.**  As its definitions arrive, the axiom behind a number develops by them,
from none at all to an ambiguity that stays; if there is an axiom, the first definition that ever
arrived represents it.  An extraction does not change by what its module does not list, and one that
fails because of an ambiguous number fails for good. -/
theorem fate_of_numbers (store : DefinitionStore) (further : List Arrival) :
    let arrived := further.flatMap Arrival.definitions
    let later := further.foldl receive store
    (∀ settings ids, (∀ d ∈ arrived, d.id ∉ ids) →
      ofModule settings later ids = ofModule settings store ids) ∧
    (∀ strategy id,
      let own := arrived.filter (·.id = id)
      DevelopsBy strategy id own (store.axiomOf strategy id) (later.axiomOf strategy id) ∧
      (3 ≤ (store.get id).length → later.axiomOf strategy id =
        .error (.ambiguousAxiom id ((store.get id).length + own.length)))) ∧
    (∀ (arrivals : List Arrival) strategy id,
      let stored := (arrivals.flatMap Arrival.definitions).filter (·.id = id)
      let outcome := (arrivals.foldl receive empty).axiomOf strategy id
      DevelopsBy strategy id stored (.error (.undefinedAxiom id)) outcome ∧
      (∀ a, outcome = .ok a → stored.head? = some a.definition) ∧
      ∀ n, outcome = .error (.ambiguousAxiom id n) → n = stored.length) ∧
    ∀ settings ids id n, (ofModule settings store ids).outcome = .error (.ambiguousAxiom id n) →
      ∃ other ∈ ids, ∃ count,
        (ofModule settings later ids).outcome = .error (.ambiguousAxiom other count) := by
  intro arrived later
  refine ⟨fun settings ids absent => ?_, fun strategy id => ⟨?_, fun many => ?_⟩,
    fun arrivals strategy id => ?_, fun settings ids id n => ambiguous_foldl_receive further⟩
  · refine ofModule_congr rfl fun id mem => axiomOf_foldl_receive_of_absent ?_ _
    rintro d arrives rfl
    exact absent d arrives mem
  · exact developsBy_foldl_receive store further strategy id
  · have all : later.get id = store.get id ++ arrived.filter (·.id = id) :=
      get_foldl_receive store further id
    rw [axiomOf, all, ← List.length_append]
    refine ofDefinitions_of_three_le strategy id (many.trans ?_)
    rw [List.length_append]
    exact Nat.le_add_right _ _
  · intro stored outcome
    have all : (arrivals.foldl receive empty).get id = stored := by
      rw [get_foldl_receive, get_empty, List.nil_append]
    refine ⟨?_, fun a made => ?_, fun n refused => ?_⟩
    · have develops := developsBy_foldl_receive empty arrivals strategy id
      rwa [axiomOf, get_empty] at develops
    · rw [← all]
      exact head?_of_ofDefinitions made
    · rcases error_of_ofDefinitions refused with ⟨-, same⟩ | ⟨-, same⟩
      · injections
      · injection same with _ count
        rw [count, all]

/-- Two definitions under 3 are no equivalence, and there are three under 9, when a source arrives
that is at fault in its second line, and then one more definition under each of the two. -/
theorem fate_of_three_numbers :
    let rows := "3 (implies A B)\n3 (implies A C)\n9 a b\n9 b c\n9 c a\n8 (implies C D)\n"
    let store := empty.receive (.batch .gci (.ofText rows))
    let further : List Arrival := [.batch .ri (.ofText "4 r s\n5\n8 t u\n"),
      .single ⟨⟨3⟩, "(implies", ["B", "A)"], .gci, 1⟩, .single ⟨⟨9⟩, "d", [], .gci, 1⟩]
    let later := further.foldl receive store
    let settings : Settings := { pairs := ⟨"collapse", .converse, .count, .converse⟩ }
    ofModule settings later [⟨8⟩, ⟨8⟩] = ofModule settings store [⟨8⟩, ⟨8⟩] ∧
      later.axiomOf .count ⟨9⟩ = .error (.ambiguousAxiom ⟨9⟩ 4) ∧
      (ofModule settings store [⟨8⟩, ⟨3⟩, ⟨9⟩]).outcome = .error (.ambiguousAxiom ⟨3⟩ 2) ∧
      ∃ other ∈ [(⟨8⟩ : AxiomId), ⟨3⟩, ⟨9⟩], ∃ count,
        (ofModule settings later [⟨8⟩, ⟨3⟩, ⟨9⟩]).outcome = .error (.ambiguousAxiom other count) := by
  intro rows store further later settings
  obtain ⟨unlisted, numbers, -, ambiguous⟩ := fate_of_numbers store further
  have refused : (ofModule settings store [⟨8⟩, ⟨3⟩, ⟨9⟩]).outcome =
      .error (.ambiguousAxiom ⟨3⟩ 2) := by
    rfl
  refine ⟨unlisted settings _ ?_, ?_, refused, ambiguous settings _ _ _ refused⟩
  · decide +kernel
  · exact (numbers .count ⟨9⟩).2 (by decide +kernel)

end DefinitionStore

end AxiomPinpointing
