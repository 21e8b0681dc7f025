import AxiomPinpointing.DefinitionStore
import AxiomPinpointing.Proofs.Lines
import AxiomPinpointing.Proofs.Outcome
import Mathlib.Tactic.Lemma

/-!
# What a store of definitions holds

A store is a map, and the definitions under a number can be looked up without a search.  What it
*holds* is simpler: under each number there are the definitions with that number, in the order in
which they were filed (`get_foldl_insert`).  Reading a source files the definitions of its lines up
to the first fault (`state_visitLines`), and if there is no fault these are the rows of the source,
word for word (`words_definitionsOf`).

Numbers are read in their canonical spelling only.  Two definitions are therefore filed under the
same number exactly if the first words of their lines are the same.
-/

namespace AxiomPinpointing

open Text

/-! ## Identifiers and their words -/

lemma AxiomId.ofWord?_eq_some_iff {word : String} {id : AxiomId} :
    ofWord? word = some id ↔ word = toString id := by
  rw [ofWord?, Option.map_eq_some_iff]
  constructor
  · rintro ⟨value, read, rfl⟩
    exact canonical64?_eq_some_iff.mp read
  · intro spelled
    exact ⟨id.value, canonical64?_eq_some_iff.mpr spelled, rfl⟩

lemma AxiomId.ofWord?_eq_none_iff {word : String} :
    ofWord? word = none ↔ ∀ id : AxiomId, toString id ≠ word := by
  simp only [Option.eq_none_iff_forall_ne_some, ne_eq, ofWord?_eq_some_iff, eq_comm (a := word)]

lemma AxiomId.toString_inj {id other : AxiomId} : toString id = toString other ↔ id = other := by
  constructor
  · intro same
    have read : ofWord? (toString other) = some id := ofWord?_eq_some_iff.mpr same.symm
    have own : ofWord? (toString other) = some other := ofWord?_eq_some_iff.mpr rfl
    exact Option.some.inj (read.symm.trans own)
  · rintro rfl
    rfl

/-! ## Definitions and their words -/

/-- The words of the line that a definition was read from. -/
def Definition.words (d : Definition) : List String :=
  toString d.id :: d.relation :: d.operands

lemma Definition.words_of_ofWords {origin : Origin} {line : Nat} {ws : List String}
    {d : Definition} (h : ofWords origin line ws = .ok d) : d.words = ws := by
  rw [ofWords.eq_def] at h
  split at h
  next => contradiction
  next word rest =>
    split at h
    next => contradiction
    next => contradiction
    next id relation operands read =>
      injection h with h
      rw [← h, AxiomId.ofWord?_eq_some_iff.mp read]
      rfl

namespace DefinitionStore

/-! ## Filing -/

/-- **The definitions under a number** are those with that number, in the order of their arrival. -/
lemma get_foldl_insert (definitions : List Definition) (store : DefinitionStore) (id : AxiomId) :
    (definitions.foldl insert store).get id =
      store.get id ++ definitions.filter (·.id = id) := by
  induction definitions generalizing store with
  | nil => simp
  | cons d definitions ih =>
    rw [List.foldl_cons, ih]
    by_cases here : d.id = id
    · rw [← here, get_insert_self, List.filter_cons_of_pos (by simp), List.append_assoc,
        List.singleton_append]
    · rw [get_insert_of_ne store here, List.filter_cons_of_neg (by simpa using here)]

/-- The definitions on some lines, up to the first that is at fault. -/
def definitionsOf (origin : Origin) : Nat → List Line → List Definition
  | _, [] => []
  | _, .unreadable :: _ => []
  | number, .text content :: rest =>
    if words content = [] then definitionsOf origin (number + 1) rest
    else
      match Definition.ofWords origin number (words content) with
      | .ok d => d :: definitionsOf origin (number + 1) rest
      | .error _ => []

lemma visit_eq (origin : Origin) (number : Nat) (line : String) (store : DefinitionStore) :
    visit origin number line store =
      if words line = [] then .next store
      else .update store (Definition.ofWords origin number (words line)) insert := by
  rw [visit]
  split
  next blank => rw [if_pos blank]
  next filled => rw [if_neg filled]

/-- **What a source adds to a store**, whether it is at fault or not. -/
lemma state_visitLines (origin : Origin) (number : Nat) (store : DefinitionStore)
    (lines : List Line) :
    (visitLines (visit origin) number store lines).state =
      (definitionsOf origin number lines).foldl insert store := by
  induction lines generalizing number store with
  | nil => rfl
  | cons line rest ih =>
    cases line with
    | unreadable => rfl
    | text content =>
      rw [visitLines, visit_eq, definitionsOf]
      by_cases blank : words content = []
      · simp only [if_pos blank, ih]
      · simp only [if_neg blank]
        cases read : Definition.ofWords origin number (words content) with
        | error fault => rfl
        | ok d => exact ih (number + 1) (store.insert d)

/-- A source without a fault is a list of definitions, row by row. -/
lemma words_definitionsOf {origin : Origin} {number : Nat} {store : DefinitionStore}
    {lines : List Line} (h : (visitLines (visit origin) number store lines).fault = none) :
    (definitionsOf origin number lines).map Definition.words = rowsOf lines := by
  induction lines generalizing number store with
  | nil => rfl
  | cons line rest ih =>
    cases line with
    | unreadable => contradiction
    | text content =>
      rw [visitLines, visit_eq] at h
      rw [definitionsOf]
      by_cases blank : words content = []
      · simp only [if_pos blank] at h ⊢
        rw [ih h, rowsOf_cons_of_blank blank]
      · simp only [if_neg blank] at h ⊢
        cases read : Definition.ofWords origin number (words content) with
        | error fault => rw [read] at h; contradiction
        | ok d =>
          rw [read] at h
          rw [List.map_cons, ih h, rowsOf_cons blank, Definition.words_of_ofWords read]

/-- Both sources of a store have been read to their ends. -/
lemma reads_of_read {gci ri : Source} {store : DefinitionStore}
    (h : (read gci ri).outcome = .ok store) :
    (empty.readSource .gci gci).fault = none ∧
      ((empty.readSource .gci gci).state.readSource .ri ri).fault = none ∧
      ((empty.readSource .gci gci).state.readSource .ri ri).state = store := by
  obtain ⟨concepts, first, h⟩ := Run.bind_outcome_eq_ok.mp h
  obtain ⟨both, second, h⟩ := Run.bind_outcome_eq_ok.mp h
  obtain rfl : both = store := Except.ok.inj h
  obtain ⟨conceptsRead, rfl⟩ := Reading.outcome_eq_ok.mp first
  exact ⟨conceptsRead, Reading.outcome_eq_ok.mp second⟩

/-- A store that was read is a store that was filed, definition by definition. -/
lemma eq_foldl_insert_of_read {gci ri : Source} {store : DefinitionStore}
    (h : (read gci ri).outcome = .ok store) :
    store = (definitionsOf .ri 1 ri.lines).foldl insert
      ((definitionsOf .gci 1 gci.lines).foldl insert empty) := by
  obtain ⟨-, -, left⟩ := reads_of_read h
  rw [← left, readSource, Source.read, state_visitLines, readSource, Source.read, state_visitLines]

/-- Under a number, the definitions of the first source come before those of the second. -/
lemma get_of_read {gci ri : Source} {store : DefinitionStore}
    (h : (read gci ri).outcome = .ok store) (id : AxiomId) :
    store.get id = (definitionsOf .gci 1 gci.lines).filter (·.id = id) ++
      (definitionsOf .ri 1 ri.lines).filter (·.id = id) := by
  rw [eq_foldl_insert_of_read h, get_foldl_insert, get_foldl_insert, get_empty, List.nil_append]

/-- **What a store was read from.**  Under a number there are the rows that begin with it, of both
sources together. -/
lemma words_get_of_read {gci ri : Source} {store : DefinitionStore}
    (h : (read gci ri).outcome = .ok store) (id : AxiomId) :
    (store.get id).map Definition.words =
      (gci.rows ++ ri.rows).filter (·.head? = some (toString id)) := by
  obtain ⟨conceptsRead, rolesRead, -⟩ := reads_of_read h
  have named : (fun d : Definition => decide (d.id = id)) =
      (fun ws => decide (ws.head? = some (toString id))) ∘ Definition.words := by
    funext d
    simp [Definition.words, AxiomId.toString_inj]
  rw [get_of_read h, named, ← List.filter_append, ← List.filter_map, List.map_append,
    words_definitionsOf conceptsRead, words_definitionsOf rolesRead]
  rfl

end DefinitionStore

end AxiomPinpointing
