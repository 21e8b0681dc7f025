import AxiomPinpointing.Source
import Mathlib.Data.List.Forall2
import Mathlib.Tactic.Lemma

/-!
# Outcomes without a fault

Readers and runs are joined from parts, and the whole has a result exactly if every part has one.
The equivalences below take such a result apart, so that no proof has to look into the monads.
-/

namespace AxiomPinpointing

variable {ε α β σ : Type}

lemma bind_eq_ok {outcome : Except ε α} {next : α → Except ε β} {b : β} :
    outcome >>= next = .ok b ↔ ∃ a, outcome = .ok a ∧ next a = .ok b := by
  constructor
  · intro h
    cases outcome with
    | error => contradiction
    | ok a => exact ⟨a, rfl, h⟩
  · rintro ⟨a, rfl, h⟩
    exact h

lemma bind_eq_error {outcome : Except ε α} {next : α → Except ε β} {fault : ε} :
    outcome >>= next = .error fault ↔
      outcome = .error fault ∨ ∃ a, outcome = .ok a ∧ next a = .error fault := by
  cases outcome <;> simp [bind, Except.bind]

lemma map_eq_ok {outcome : Except ε α} {f : α → β} {b : β} :
    outcome.map f = .ok b ↔ ∃ a, outcome = .ok a ∧ f a = b := by
  constructor
  · intro h
    cases outcome with
    | error => contradiction
    | ok a => exact ⟨a, rfl, Except.ok.inj h⟩
  · rintro ⟨a, rfl, rfl⟩
    rfl

lemma map_eq_error {outcome : Except ε α} {f : α → β} {fault : ε} :
    outcome.map f = .error fault ↔ outcome = .error fault := by
  cases outcome <;> simp [Except.map]

/-- There is a fault exactly if there is no result. -/
lemma exists_eq_error_iff {outcome : Except ε α} :
    (∃ fault, outcome = .error fault) ↔ ¬ ∃ a, outcome = .ok a := by
  cases outcome <;> simp

/-- **An outcome that is known in all cases** is what it is exactly in these. -/
lemma outcome_iff {outcome : Except ε α} {Good : α → Prop} {Bad : ε → Prop}
    (good : ∀ {a}, Good a → outcome = .ok a) (bad : ∀ {fault}, Bad fault → outcome = .error fault)
    (known : (∃ a, Good a) ∨ ∃ fault, Bad fault) :
    (∀ a, outcome = .ok a ↔ Good a) ∧ ∀ fault, outcome = .error fault ↔ Bad fault := by
  rcases known with ⟨a, isGood⟩ | ⟨fault, isBad⟩
  · have made := good isGood
    refine ⟨fun other => ⟨fun h => ?_, good⟩, fun fault => ⟨fun h => ?_, bad⟩⟩
    · rwa [← Except.ok.inj (made.symm.trans h)]
    · rw [made] at h
      contradiction
  · have refused := bad isBad
    refine ⟨fun a => ⟨fun h => ?_, good⟩, fun other => ⟨fun h => ?_, bad⟩⟩
    · rw [refused] at h
      contradiction
    · rwa [← Except.error.inj (refused.symm.trans h)]

/-! ## Traversals -/

section Traversals

variable {f : α → Except ε β} {as : List α} {bs : List β}

/-- **The results of a traversal** are those of the elements, one for one. -/
lemma mapM_eq_ok_iff : as.mapM f = .ok bs ↔ List.Forall₂ (fun a b => f a = .ok b) as bs := by
  induction as generalizing bs with
  | nil =>
    rw [List.mapM_nil, List.forall₂_nil_left_iff]
    exact ⟨fun h => (Except.ok.inj h).symm, fun h => h ▸ rfl⟩
  | cons a as ih =>
    simp only [List.mapM_cons, bind_eq_ok, List.forall₂_cons_left_iff, ← ih]
    constructor
    · rintro ⟨b, made, rest, others, same⟩
      exact ⟨b, rest, made, others, (Except.ok.inj same).symm⟩
    · rintro ⟨b, rest, made, others, rfl⟩
      exact ⟨b, made, rest, others, rfl⟩

lemma exists_mapM_eq_ok_iff : (∃ bs, as.mapM f = .ok bs) ↔ ∀ a ∈ as, ∃ b, f a = .ok b := by
  simp only [mapM_eq_ok_iff]
  induction as with
  | nil => simp
  | cons a as ih =>
    rw [List.forall_mem_cons, ← ih]
    simp only [List.forall₂_cons_left_iff]
    constructor
    · rintro ⟨_, b, rest, made, others, -⟩
      exact ⟨⟨b, made⟩, rest, others⟩
    · rintro ⟨⟨b, made⟩, rest, others⟩
      exact ⟨b :: rest, b, rest, made, others, rfl⟩

/-- One element at fault is enough for the whole to be at fault. -/
lemma exists_mapM_eq_error_iff :
    (∃ fault, as.mapM f = .error fault) ↔ ∃ a ∈ as, ∃ fault, f a = .error fault := by
  simp only [exists_eq_error_iff, exists_mapM_eq_ok_iff]
  push Not
  rfl

lemma mapM_cons_eq_error_iff {a : α} {fault : ε} : (a :: as).mapM f = .error fault ↔
    f a = .error fault ∨ (∃ b, f a = .ok b) ∧ as.mapM f = .error fault := by
  rw [List.mapM_cons]
  cases f a with
  | error own => simp [bind, Except.bind]
  | ok b => cases as.mapM f <;> simp [bind, Except.bind, pure, Except.pure]

/-- **The fault of a traversal** is that of the first element without a result. -/
lemma mapM_eq_error_iff {fault : ε} : as.mapM f = .error fault ↔
    ∃ k a, as[k]? = some a ∧ (∀ b ∈ as.take k, ∃ made, f b = .ok made) ∧ f a = .error fault := by
  induction as with
  | nil => simp [pure, Except.pure]
  | cons a as ih =>
    rw [mapM_cons_eq_error_iff, ih]
    constructor
    · rintro (fails | ⟨made, k, b, here, before, fails⟩)
      · exact ⟨0, a, rfl, by simp, fails⟩
      · refine ⟨k + 1, b, here, ?_, fails⟩
        rw [List.take_succ_cons, List.forall_mem_cons]
        exact ⟨made, before⟩
    · rintro ⟨k, b, here, before, fails⟩
      cases k with
      | zero =>
        obtain rfl : a = b := Option.some.inj here
        exact .inl fails
      | succ k =>
        rw [List.take_succ_cons, List.forall_mem_cons] at before
        exact .inr ⟨before.1, k, b, here, before.2, fails⟩

lemma mapM_congr {g : α → Except ε β} (same : ∀ a ∈ as, f a = g a) : as.mapM f = as.mapM g := by
  induction as with
  | nil => rfl
  | cons a as ih =>
    obtain ⟨first, others⟩ := List.forall_mem_cons.mp same
    rw [List.mapM_cons, List.mapM_cons, first, ih others]

/-- Every result of a traversal comes from one of the elements. -/
lemma exists_of_mem_mapM (h : as.mapM f = .ok bs) : ∀ b ∈ bs, ∃ a ∈ as, f a = .ok b := by
  rw [mapM_eq_ok_iff] at h
  induction h with
  | nil => simp
  | cons made others ih =>
    intro b mem
    rcases List.mem_cons.mp mem with rfl | mem
    · exact ⟨_, List.mem_cons_self, made⟩
    · obtain ⟨a, known, made⟩ := ih b mem
      exact ⟨a, List.mem_cons_of_mem _ known, made⟩

end Traversals

/-! ## Runs and readings -/

lemma Run.bind_outcome_eq_ok {run : Run α} {next : α → Run β} {b : β} :
    (run >>= next).outcome = .ok b ↔ ∃ a, run.outcome = .ok a ∧ (next a).outcome = .ok b := by
  rw [Run.bind_outcome, bind_eq_ok]

lemma Reading.outcome_eq_ok {reading : Reading σ} {state : σ} :
    reading.outcome = .ok state ↔ reading.fault = none ∧ reading.state = state := by
  rw [Reading.outcome]
  cases reading.fault <;> simp

end AxiomPinpointing
