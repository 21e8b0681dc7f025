import AxiomPinpointing.Proofs.RenumberingText
import Mathlib.Data.List.Induction
import Mathlib.Data.List.Nodup
import Mathlib.Order.Bounds.Basic
import Mathlib.Order.Lattice.Nat

/-!
# Places and numbers

A renumbering answers two questions, which number is at a place and which place a number has.  The
first is answered by counting.  The second is answered from a table, which points at an entry, and
from the place that this entry has stored.  Both are right because every push keeps them **in step**
with the entries (`InStep.add`): the k-th entry has stored k, and under each number there is the
position of the first entry with it.

A number that is listed repeatedly has several places, and the table knows the first of them only.
So the two directions undo each other on renumberings without repetitions, and on no others.
-/

namespace AxiomPinpointing.Renumbering

/-! ## Entries and their places -/

/-- All places of a number. -/
def placesOf (map : Renumbering) (id : AxiomId) : Set Nat :=
  {place | ∃ entry, map.entryAt? place = some entry ∧ entry.id = id}

section Lookup

variable {map : Renumbering} {id : AxiomId} {place : Nat}

lemma entryAt?_isSome_iff : (∃ entry, map.entryAt? place = some entry) ↔
    1 ≤ place ∧ place ≤ map.size := by
  cases place with
  | zero => simp [entryAt?]
  | succ i =>
    simp only [entryAt?, size, Array.getElem?_eq_some_iff]
    constructor
    · rintro ⟨-, inside, -⟩
      omega
    · rintro ⟨-, inside⟩
      exact ⟨_, inside, rfl⟩

/-- What is answered at a place is said by the entry there. -/
lemma map_entryAt_eq_ok_iff {α : Type} {f : Entry → α} {a : α} :
    (map.entryAt place).map f = .ok a ↔ ∃ entry, map.entryAt? place = some entry ∧ f entry = a := by
  rw [map_eq_ok, entryAt]
  cases map.entryAt? place <;> simp

/-- There is an answer at every place from 1 to the last, and nowhere else. -/
lemma exists_map_entryAt_iff {α : Type} (f : Entry → α) :
    (∃ a, (map.entryAt place).map f = .ok a) ↔ 1 ≤ place ∧ place ≤ map.size := by
  rw [← entryAt?_isSome_iff]
  simp only [map_entryAt_eq_ok_iff]
  exact ⟨fun ⟨_, entry, found, _⟩ => ⟨entry, found⟩, fun ⟨entry, found⟩ => ⟨_, entry, found, rfl⟩⟩

lemma idAt_eq_ok_iff : map.idAt place = .ok id ↔ place ∈ map.placesOf id :=
  map_entryAt_eq_ok_iff

lemma textAt_eq_ok_iff {text : String} : map.textAt place = .ok text ↔
    ∃ entry, map.entryAt? place = some entry ∧ entry.text = text :=
  map_entryAt_eq_ok_iff

lemma textAt_succ_eq_ok_iff {i : Nat} {text : String} : map.textAt (i + 1) = .ok text ↔
    (map.entries.toList.map Entry.text)[i]? = some text := by
  rw [textAt_eq_ok_iff, List.getElem?_map, Option.map_eq_some_iff, Array.getElem?_toList]
  rfl

lemma succ_mem_placesOf_iff {i : Nat} :
    i + 1 ∈ map.placesOf id ↔ ∃ h : i < map.entries.size, map.entries[i].id = id := by
  simp only [placesOf, entryAt?, Set.mem_ofPred_eq, Array.getElem?_eq_some_iff]
  constructor
  · rintro ⟨_, ⟨h, rfl⟩, same⟩
    exact ⟨h, same⟩
  · rintro ⟨h, same⟩
    exact ⟨_, ⟨h, rfl⟩, same⟩

lemma zero_notMem_placesOf : 0 ∉ map.placesOf id := by
  rintro ⟨entry, found, -⟩
  contradiction

end Lookup

/-! ## Pushing -/

section Push

variable {map : Renumbering} {place : Nat}

/-- The new entry is at the place that is returned, and has it as its own. -/
lemma entryAt?_push (map : Renumbering) (id : AxiomId) (text : String) :
    (map.push id text).2.entryAt? (map.push id text).1 =
      some ⟨(map.push id text).1, id, text⟩ :=
  Array.getElem?_push_size

lemma entryAt?_add_of_some {entry : Entry} (h : map.entryAt? place = some entry)
    (listed : AxiomId × String) : (map.add listed).entryAt? place = some entry := by
  cases place with
  | zero => contradiction
  | succ i =>
    obtain ⟨inside, found⟩ := Array.getElem?_eq_some_iff.mp h
    rw [entryAt?, entries_add, Array.getElem?_push_lt inside, found]

lemma map_entryAt_add_of_ok {α : Type} {f : Entry → α} {a : α}
    (h : (map.entryAt place).map f = .ok a) (listed : AxiomId × String) :
    ((map.add listed).entryAt place).map f = .ok a := by
  obtain ⟨entry, found, same⟩ := map_entryAt_eq_ok_iff.mp h
  exact map_entryAt_eq_ok_iff.mpr ⟨entry, entryAt?_add_of_some found listed, same⟩

end Push

/-- Holds if every entry has stored its place, and the table is in step with the entries. -/
structure InStep (map : Renumbering) : Prop where
  place : ∀ i entry, map.entries[i]? = some entry → entry.place = i + 1
  first : ∀ id : AxiomId, map.positions[id.value]? = map.entries.findIdx? (·.id = id)

lemma inStep_empty : InStep empty where
  place := by simp [empty]
  first := by simp [empty]

/-- **Every push keeps entries and table in step**: the new entry gets the next place; a number that
has an entry keeps it, and another number gets the new one. -/
lemma InStep.add {map : Renumbering} (h : map.InStep) (listed : AxiomId × String) :
    (map.add listed).InStep where
  place i entry found := by
    rw [entries_add, Array.getElem?_push] at found
    split_ifs at found with last
    · rw [← Option.some.inj found, last]
      rfl
    · exact h.place i entry found
  first id := by
    have before := h.first id
    rw [entries_add, Array.findIdx?_push, Renumbering.add, Renumbering.push]
    simp only [Std.ExtTreeMap.getElem?_insertIfNew, Std.ExtTreeMap.mem_iff_isSome_getElem?,
      h.first listed.1]
    by_cases same : listed.1 = id
    · subst same
      cases found : map.entries.findIdx? (·.id = listed.1) with
      | none => simp
      | some i => simp [before, found]
    · have other : listed.1.value ≠ id.value := fun value => same (congrArg AxiomId.mk value)
      simp [before, same, other]

lemma Pushed.inStep {map : Renumbering} (h : map.Pushed) : map.InStep := by
  obtain ⟨axioms, rfl⟩ := h
  induction axioms using List.reverseRecOn with
  | nil => exact inStep_empty
  | append_singleton axioms listed ih =>
    rw [ofAxioms_concat]
    exact ih.add listed

/-! ## The first place -/

section InStep

variable {map : Renumbering} {id : AxiomId} {place : Nat}

/-- The table points at entries only, each of the number that it is asked for. -/
lemma InStep.inside (h : map.InStep) {position : Nat}
    (found : map.positions[id.value]? = some position) :
    ∃ inside : position < map.entries.size, map.entries[position].id = id := by
  rw [h.first id] at found
  obtain ⟨inside, same, -⟩ := Array.findIdx?_eq_some_iff_getElem.mp found
  exact ⟨inside, of_decide_eq_true same⟩

/-- The place that is looked up in the entry is the one next to the position. -/
lemma InStep.placeOf_iff_positions (h : map.InStep) : map.placeOf id = .ok place ↔
    ∃ position, map.positions[id.value]? = some position ∧ position + 1 = place := by
  rw [placeOf]
  cases found : map.positions[id.value]? with
  | none => simp
  | some position =>
    obtain ⟨inside, -⟩ := h.inside found
    have stored := h.place position _ (Array.getElem?_eq_getElem inside)
    simp [getElem!_pos map.entries position inside, stored]

/-- A number that has a place already keeps it. -/
lemma InStep.placeOf_add_of_ok (h : map.InStep) (known : map.placeOf id = .ok place)
    (listed : AxiomId × String) : (map.add listed).placeOf id = .ok place := by
  obtain ⟨position, found, next⟩ := h.placeOf_iff_positions.mp known
  refine (h.add listed).placeOf_iff_positions.mpr ⟨position, ?_, next⟩
  rw [(h.add listed).first, entries_add, Array.findIdx?_push, ← h.first, found, Option.some_or]

/-- **The table points at the first entry of every number.** -/
lemma InStep.positions_eq_some_iff (h : map.InStep) {position : Nat} :
    map.positions[id.value]? = some position ↔ IsLeast (map.placesOf id) (position + 1) := by
  rw [h.first id, Array.findIdx?_eq_some_iff_getElem]
  constructor
  · rintro ⟨inside, same, first⟩
    refine ⟨succ_mem_placesOf_iff.mpr ⟨inside, of_decide_eq_true same⟩, fun other mem => ?_⟩
    cases other with
    | zero => exact absurd mem zero_notMem_placesOf
    | succ j =>
      obtain ⟨_, also⟩ := succ_mem_placesOf_iff.mp mem
      by_contra early
      exact first j (by omega) (decide_eq_true also)
  · rintro ⟨mem, least⟩
    obtain ⟨inside, same⟩ := succ_mem_placesOf_iff.mp mem
    refine ⟨inside, decide_eq_true same, fun j early also => ?_⟩
    have later := least (succ_mem_placesOf_iff.mpr ⟨by omega, of_decide_eq_true also⟩)
    omega

lemma InStep.placeOf_eq_ok_iff (h : map.InStep) :
    map.placeOf id = .ok place ↔ IsLeast (map.placesOf id) place := by
  simp only [h.placeOf_iff_positions, h.positions_eq_some_iff]
  constructor
  · rintro ⟨position, least, rfl⟩
    exact least
  · intro least
    cases place with
    | zero => exact absurd least.1 zero_notMem_placesOf
    | succ position => exact ⟨position, least, rfl⟩

lemma InStep.exists_placeOf (h : map.InStep) (mem : place ∈ map.placesOf id) :
    ∃ first, map.placeOf id = .ok first ∧ IsLeast (map.placesOf id) first := by
  have least : IsLeast (map.placesOf id) (sInf (map.placesOf id)) :=
    ⟨Nat.sInf_mem ⟨place, mem⟩, fun _ => Nat.sInf_le⟩
  exact ⟨_, h.placeOf_eq_ok_iff.mpr least, least⟩

lemma InStep.placeOf_eq_error_iff (h : map.InStep) :
    map.placeOf id = .error (.noEntry (toString id)) ↔ map.placesOf id = ∅ := by
  rw [Set.eq_empty_iff_forall_notMem]
  constructor
  · intro unknown place mem
    obtain ⟨first, found, -⟩ := h.exists_placeOf mem
    rw [unknown] at found
    contradiction
  · intro none
    cases found : map.positions[id.value]? with
    | none => rw [placeOf, found]
    | some position => exact absurd (h.positions_eq_some_iff.mp found).1 (none (position + 1))

end InStep

/-! ## Renumberings without repetitions -/

/-- The numbers are pairwise distinct exactly if none of them has two places. -/
lemma nodup_iff_placesOf {map : Renumbering} :
    (map.entries.toList.map Entry.id).Nodup ↔
      ∀ id, ∀ place ∈ map.placesOf id, ∀ other ∈ map.placesOf id, place = other := by
  rw [List.nodup_iff_injective_getElem]
  constructor
  · intro distinct id place here other there
    cases place with
    | zero => exact absurd here zero_notMem_placesOf
    | succ i =>
      cases other with
      | zero => exact absurd there zero_notMem_placesOf
      | succ j =>
        obtain ⟨hi, here⟩ := succ_mem_placesOf_iff.mp here
        obtain ⟨hj, there⟩ := succ_mem_placesOf_iff.mp there
        have same := @distinct ⟨i, by simpa using hi⟩ ⟨j, by simpa using hj⟩
          (by simp [here, there])
        rw [Fin.mk.inj same]
  · rintro single ⟨i, hi⟩ ⟨j, hj⟩ same
    simp only [List.getElem_map, Array.getElem_toList] at same
    rw [List.length_map, Array.length_toList] at hi hj
    have one := single _ (i + 1) (succ_mem_placesOf_iff.mpr ⟨hi, rfl⟩) (j + 1)
      (succ_mem_placesOf_iff.mpr ⟨hj, same.symm⟩)
    exact Fin.ext (Nat.succ.inj one)

lemma InStep.inverse_iff_nodup {map : Renumbering} (h : map.InStep) :
    (∀ place id, map.idAt place = .ok id ↔ map.placeOf id = .ok place) ↔
      (map.entries.toList.map Entry.id).Nodup := by
  rw [nodup_iff_placesOf]
  simp only [idAt_eq_ok_iff, h.placeOf_eq_ok_iff]
  constructor
  · intro inverse id place here other there
    exact ((inverse place id).mp here).unique ((inverse other id).mp there)
  · intro single place id
    refine ⟨fun here => ⟨here, fun other there => ?_⟩, fun least => least.1⟩
    exact (single id place here other there).le

/-! ## Both directions -/

/-- **How the two directions of a renumbering fit together.** -/
structure Reversible (map : Renumbering) : Prop where
  /-- The entry at place k has stored k as its place, and is what is answered there. -/
  stored : ∀ k entry, map.entryAt? k = some entry →
    entry.place = k ∧ map.idAt k = .ok entry.id ∧ map.textAt k = .ok entry.text
  /-- The place of a number is the first at which it is listed. -/
  placeOf_ok : ∀ id place, map.placeOf id = .ok place ↔
    IsLeast {k | ∃ entry, map.entryAt? k = some entry ∧ entry.id = id} place
  /-- Only a number that is not listed at all has no place. -/
  placeOf_error : ∀ id, map.placeOf id = .error (.noEntry (toString id)) ↔
    ¬ ∃ k entry, map.entryAt? k = some entry ∧ entry.id = id
  /-- The table points at entries only, each of the number that it is asked for. -/
  inside : ∀ (id : UInt64) (position : Nat), map.positions[id]? = some position →
    ∃ inside : position < map.entries.size, map.entries[position].id = ⟨id⟩
  /-- There is a number at every place from 1 to the last, and nowhere else. -/
  idAt_ok : ∀ place, (∃ id, map.idAt place = .ok id) ↔ 1 ≤ place ∧ place ≤ map.size
  /-- And so there is a text. -/
  textAt_ok : ∀ place, (∃ text, map.textAt place = .ok text) ↔ 1 ≤ place ∧ place ≤ map.size
  /-- At the place of a number there is this number. -/
  idAt_placeOf : ∀ id place, map.placeOf id = .ok place → map.idAt place = .ok id
  /-- The number at a place has this place or an earlier one. -/
  placeOf_idAt : ∀ place id, map.idAt place = .ok id → ∃ first, map.placeOf id = .ok first ∧
    first ≤ place ∧ (first = place ↔ ∀ earlier < place, map.idAt earlier ≠ .ok id)
  /-- The two directions are inverse to each other if no number is repeated, and only then. -/
  inverse : (∀ place id, map.idAt place = .ok id ↔ map.placeOf id = .ok place) ↔
    (map.entries.toList.map Entry.id).Nodup
  /-- A further push returns the place of the new entry, and changes no answer. -/
  pushed : ∀ id text last next, map.push id text = (last, next) →
    next.entryAt? last = some ⟨last, id, text⟩ ∧ last = map.size + 1 ∧
    (∀ place id, map.idAt place = .ok id → next.idAt place = .ok id) ∧
    (∀ place text, map.textAt place = .ok text → next.textAt place = .ok text) ∧
    ∀ id place, map.placeOf id = .ok place → next.placeOf id = .ok place

lemma InStep.placeOf_of_idAt {map : Renumbering} (h : map.InStep) {place : Nat} {id : AxiomId}
    (found : map.idAt place = .ok id) :
    ∃ first, map.placeOf id = .ok first ∧ first ≤ place ∧
      (first = place ↔ ∀ earlier < place, map.idAt earlier ≠ .ok id) := by
  simp only [ne_eq, idAt_eq_ok_iff] at found ⊢
  obtain ⟨first, answer, here, least⟩ := h.exists_placeOf found
  refine ⟨first, answer, least found, ?_, fun fresh => ?_⟩
  · rintro rfl earlier before there
    have later := least there
    omega
  · by_contra other
    exact fresh first (lt_of_le_of_ne (least found) other) here

lemma InStep.reversible {map : Renumbering} (h : map.InStep) : map.Reversible where
  stored k entry found := by
    refine ⟨?_, idAt_eq_ok_iff.mpr ⟨entry, found, rfl⟩, textAt_eq_ok_iff.mpr ⟨entry, found, rfl⟩⟩
    cases k with
    | zero => contradiction
    | succ i => exact h.place i entry found
  placeOf_ok _ _ := h.placeOf_eq_ok_iff
  placeOf_error id := by
    rw [h.placeOf_eq_error_iff, Set.eq_empty_iff_forall_notMem]
    exact not_exists.symm
  inside id _ found := @InStep.inside map ⟨id⟩ h _ found
  idAt_ok _ := exists_map_entryAt_iff Entry.id
  textAt_ok _ := exists_map_entryAt_iff Entry.text
  idAt_placeOf _ _ found := idAt_eq_ok_iff.mpr (h.placeOf_eq_ok_iff.mp found).1
  placeOf_idAt _ _ found := h.placeOf_of_idAt found
  inverse := h.inverse_iff_nodup
  pushed id text last next made := by
    cases made
    exact ⟨map.entryAt?_push id text, rfl, fun _ _ found => map_entryAt_add_of_ok found (id, text),
      fun _ _ found => map_entryAt_add_of_ok found (id, text),
      fun _ _ found => h.placeOf_add_of_ok found (id, text)⟩

/-- **Renumberings can be reversed**, whether they were made by pushing axioms or read from a
source. -/
theorem reversible_of_pushed_or_read (map : Renumbering)
    (made : map.Pushed ∨ ∃ source, read source = .ok map) : map.Reversible := by
  rcases made with pushed | ⟨source, accepted⟩
  · exact pushed.inStep.reversible
  · exact (readable_of_read accepted).pushed.inStep.reversible

/-- With a number at two places, its place is the first of the two; the directions are not inverse
to each other, and what is read from a source can be reversed as well. -/
theorem reversible_of_repetition :
    (ofAxioms [(⟨3⟩, "a"), (⟨5⟩, "b"), (⟨3⟩, "c")]).placeOf ⟨3⟩ = .ok 1 ∧
    ¬ (∀ place id, (ofAxioms [(⟨3⟩, "a"), (⟨5⟩, "b"), (⟨3⟩, "c")]).idAt place = .ok id ↔
      (ofAxioms [(⟨3⟩, "a"), (⟨5⟩, "b"), (⟨3⟩, "c")]).placeOf id = .ok place) ∧
    ∃ map, read (.ofText "1 40 a\n2 7 b\n") = .ok map ∧
      (∀ k entry, map.entryAt? k = some entry → entry.place = k) ∧
      ∀ place id, map.idAt place = .ok id ↔ map.placeOf id = .ok place := by
  have repeated := reversible_of_pushed_or_read
    (ofAxioms [(⟨3⟩, "a"), (⟨5⟩, "b"), (⟨3⟩, "c")]) (.inl ⟨_, rfl⟩)
  have accepted : read (.ofText "1 40 a\n2 7 b\n") =
      .ok (ofAxioms [(⟨40⟩, "a"), (⟨7⟩, "b")]) := rfl
  have distinct := reversible_of_pushed_or_read _ (.inr ⟨_, accepted⟩)
  refine ⟨(repeated.placeOf_ok ⟨3⟩ 1).mpr ⟨⟨⟨1, ⟨3⟩, "a"⟩, rfl, rfl⟩, ?_⟩,
    mt repeated.inverse.mp (by decide), _, accepted,
    fun k entry found => (distinct.stored k entry found).1, distinct.inverse.mpr (by decide)⟩
  rintro place ⟨entry, found, -⟩
  exact (entryAt?_isSome_iff.mp ⟨entry, found⟩).1

end AxiomPinpointing.Renumbering
