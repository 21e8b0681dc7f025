import AxiomPinpointing.Extraction
import AxiomPinpointing.Proofs.Outcome

/-!
# The loop over a module

An extraction asks a store for nothing but the axioms behind the numbers of the module
(`DefinitionStore.axiomOf`).  Two extractions that get the same answers are therefore the same, down
to their logs (`Extraction.ofModule_congr`).

An extraction succeeds if every number has an axiom.  Otherwise it **fails at** a place of the module:
the numbers before can be extracted, and together with the one at that place they cannot
(`Extraction.FailsAt`).  What is wrong there is the fault of the whole.
-/

namespace AxiomPinpointing

lemma mem_take_of_getElem? {α : Type} {l : List α} {i k : Nat} {a : α} (here : l[i]? = some a)
    (before : i < k) : a ∈ l.take k :=
  List.mem_of_getElem? ((List.getElem?_take_of_lt before).trans here)

/-- The axiom behind a number, as far as a store knows. -/
def DefinitionStore.axiomOf (store : DefinitionStore) (strategy : PairStrategy) (id : AxiomId) :
    Except Fault Axiom :=
  Axiom.ofDefinitions strategy id (store.get id)

namespace Axiom

variable {strategy : PairStrategy} {id : AxiomId} {definitions : List Definition} {a : Axiom}
  {fault : Fault}

/-- The first definition represents the axiom. -/
lemma head?_of_ofDefinitions (h : ofDefinitions strategy id definitions = .ok a) :
    definitions.head? = some a.definition := by
  rw [ofDefinitions.eq_def] at h
  split at h
  next => contradiction
  next d =>
    cases h
    rfl
  next first second =>
    split at h
    next =>
      cases h
      rfl
    next => contradiction
  next => contradiction

/-- What is wrong with the definitions of a number: that there are none, or several. -/
lemma error_of_ofDefinitions (h : ofDefinitions strategy id definitions = .error fault) :
    (definitions = [] ∧ fault = .undefinedAxiom id) ∨
      2 ≤ definitions.length ∧ fault = .ambiguousAxiom id definitions.length := by
  match definitions with
  | [] => exact .inl ⟨rfl, (Except.error.inj h).symm⟩
  | [first, second] =>
    rw [ofDefinitions] at h
    split at h
    next => contradiction
    next => exact .inr ⟨Nat.le_refl 2, (Except.error.inj h).symm⟩
  | _ :: _ :: _ :: _ => exact .inr ⟨by simp, (Except.error.inj h).symm⟩

lemma ofDefinitions_of_three_le (strategy : PairStrategy) (id : AxiomId)
    (many : 3 ≤ definitions.length) :
    ofDefinitions strategy id definitions = .error (.ambiguousAxiom id definitions.length) := by
  match definitions with
  | _ :: _ :: _ :: _ => rfl

end Axiom

namespace Extraction

/-- Holds if the first `k` numbers of a module can be extracted, and the first `k + 1` cannot. -/
structure FailsAt (settings : Settings) (store : DefinitionStore) (ids : List AxiomId) (k : Nat)
    (fault : Fault) : Prop where
  before : ∃ e, (ofModule settings store (ids.take k)).outcome = .ok e
  here : (ofModule settings store (ids.take (k + 1))).outcome = .error fault

variable {settings settings' : Settings} {store store' : DefinitionStore} {ids : List AxiomId}
  {id : AxiomId} {k : Nat} {fault : Fault}

/-- **An extraction depends on the axioms of its numbers only**, and on the marker. -/
lemma ofModule_congr (marker : settings'.marker = settings.marker)
    (same : ∀ id ∈ ids,
      store'.axiomOf settings'.pairs.value id = store.axiomOf settings.pairs.value id) :
    ofModule settings' store' ids = ofModule settings store ids := by
  have loops : ∀ extraction, ids.foldlM (next settings' store') extraction =
      ids.foldlM (next settings store) extraction := by
    induction ids with
    | nil => exact fun _ => rfl
    | cons id ids ih =>
      rw [List.forall_mem_cons] at same
      intro extraction
      have first : next settings' store' extraction id = next settings store extraction id := by
        rw [next, next, marker, ← DefinitionStore.axiomOf, same.1, DefinitionStore.axiomOf]
      rw [List.foldlM_cons, List.foldlM_cons, first]
      exact congrArg _ (funext (ih same.2))
  rw [ofModule, ofModule, loops]

lemma ofModule_outcome (settings : Settings) (store : DefinitionStore) (ids : List AxiomId) :
    (ofModule settings store ids).outcome = (ids.foldlM (next settings store) empty).outcome := by
  rw [ofModule, Run.bind_outcome]
  cases (ids.foldlM (next settings store) empty).outcome <;> rfl

/-- The loop takes the axioms of all numbers, and pushes them one after the other. -/
lemma foldlM_next_outcome (settings : Settings) (store : DefinitionStore) (ids : List AxiomId)
    (extraction : Extraction) :
    (ids.foldlM (next settings store) extraction).outcome =
      (ids.mapM (store.axiomOf settings.pairs.value)).map fun axioms =>
        (ids.zip axioms).foldl (fun e row => e.push settings.marker row.1 row.2) extraction := by
  induction ids generalizing extraction with
  | nil => rfl
  | cons id ids ih =>
    rw [List.foldlM_cons, Run.bind_outcome, List.mapM_cons, next, Run.bind_outcome,
      ← DefinitionStore.axiomOf]
    cases store.axiomOf settings.pairs.value id with
    | error fault => rfl
    | ok a =>
      refine (ih (extraction.push settings.marker id a)).trans ?_
      cases ids.mapM (store.axiomOf settings.pairs.value) <;> rfl

lemma exists_ofModule_eq_ok_iff : (∃ e, (ofModule settings store ids).outcome = .ok e) ↔
    ∀ id ∈ ids, ∃ a, store.axiomOf settings.pairs.value id = .ok a := by
  rw [← exists_mapM_eq_ok_iff, ofModule_outcome, foldlM_next_outcome]
  cases ids.mapM (store.axiomOf settings.pairs.value) <;> simp [Except.map]

lemma ofModule_eq_error_iff_mapM : (ofModule settings store ids).outcome = .error fault ↔
    ids.mapM (store.axiomOf settings.pairs.value) = .error fault := by
  rw [ofModule_outcome, foldlM_next_outcome]
  cases ids.mapM (store.axiomOf settings.pairs.value) <;> simp [Except.map]

/-! ## Where an extraction fails -/

/-- It is the first number without an axiom that an extraction fails at. -/
lemma failsAt_iff : FailsAt settings store ids k fault ↔
    (∀ earlier ∈ ids.take k, ∃ a, store.axiomOf settings.pairs.value earlier = .ok a) ∧
      ∃ id, ids[k]? = some id ∧ store.axiomOf settings.pairs.value id = .error fault := by
  constructor
  · rintro ⟨before, here⟩
    rw [exists_ofModule_eq_ok_iff] at before
    rw [ofModule_eq_error_iff_mapM, mapM_eq_error_iff] at here
    refine ⟨before, ?_⟩
    obtain ⟨i, id, there, -, fails⟩ := here
    rw [List.getElem?_take, Option.ite_none_right_eq_some] at there
    obtain ⟨inTime, there⟩ := there
    rcases Nat.lt_succ_iff_lt_or_eq.mp inTime with early | rfl
    · obtain ⟨a, made⟩ := before id (mem_take_of_getElem? there early)
      rw [fails] at made
      contradiction
    · exact ⟨id, there, fails⟩
  · rintro ⟨before, id, here, fails⟩
    refine ⟨exists_ofModule_eq_ok_iff.mpr before, ?_⟩
    rw [ofModule_eq_error_iff_mapM, mapM_eq_error_iff]
    refine ⟨k, id, ?_, ?_, fails⟩
    · rw [List.getElem?_take_of_lt (Nat.lt_succ_self k), here]
    · rwa [List.take_take, Nat.min_eq_left (Nat.le_succ k)]

/-- **The fault of an extraction** is that of the place it fails at. -/
lemma ofModule_eq_error_iff : (ofModule settings store ids).outcome = .error fault ↔
    ∃ k, FailsAt settings store ids k fault := by
  rw [ofModule_eq_error_iff_mapM, mapM_eq_error_iff]
  simp only [failsAt_iff]
  constructor
  · rintro ⟨k, id, here, before, fails⟩
    exact ⟨k, before, id, here, fails⟩
  · rintro ⟨k, before, id, here, fails⟩
    exact ⟨k, id, here, before, fails⟩

/-- A number without an axiom makes an extraction fail, there or earlier. -/
lemma exists_failsAt_le (here : ids[k]? = some id)
    (fails : store.axiomOf settings.pairs.value id = .error fault) :
    ∃ i ≤ k, ∃ first, FailsAt settings store ids i first := by
  obtain ⟨first, failed⟩ : ∃ first, (ofModule settings store ids).outcome = .error first := by
    rw [exists_eq_error_iff, exists_ofModule_eq_ok_iff]
    intro all
    obtain ⟨a, made⟩ := all id (List.mem_of_getElem? here)
    rw [fails] at made
    contradiction
  obtain ⟨i, failed⟩ := ofModule_eq_error_iff.mp failed
  refine ⟨i, ?_, first, failed⟩
  by_contra late
  obtain ⟨a, made⟩ := (failsAt_iff.mp failed).1 id (mem_take_of_getElem? here (by omega))
  rw [fails] at made
  contradiction

end Extraction

end AxiomPinpointing
