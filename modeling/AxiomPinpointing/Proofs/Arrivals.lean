import AxiomPinpointing.Proofs.DefinitionStore
import Mathlib.Algebra.BigOperators.Group.Finset.Piecewise
import Mathlib.Data.Fintype.Basic

/-!
# Stores over time

A store is filled bit by bit: single definitions arrive, and whole sources, some of which are at
fault half-way (`Arrival`).  Through all of this it keeps two records of the same thing, the
definitions under every number and the number of all of them, and they never come apart
(`Consistent`).  A consistent store has nothing in it but what is under its numbers
(`Consistent.eq_of_get`), so it does not matter in which order different numbers arrived, or where
a table would put them.

A source leaves the definitions of its lines up to the first line at fault, each with the number of
its line, and nothing of that line or any later one (`exists_getsThrough`).
-/

namespace AxiomPinpointing

/-! ## Numbers -/

/-- There are as many numbers as there are words of the machine. -/
def AxiomId.equivFin : Fin UInt64.size ≃ AxiomId where
  toFun i := ⟨UInt64.ofFin i⟩
  invFun id := id.value.toFin
  left_inv i := UInt64.toFin_ofFin i
  right_inv id := congrArg AxiomId.mk (UInt64.ofFin_toFin id.value)

instance : Fintype AxiomId :=
  Fintype.ofEquiv _ AxiomId.equivFin

namespace DefinitionStore

/-! ## Consistent stores -/

/-- Holds of a store whose records agree: each definition is filed under its own number, no number
is on file without a definition, and all of them are counted. -/
structure Consistent (store : DefinitionStore) : Prop where
  own : ∀ id, ∀ d ∈ store.get id, d.id = id
  filled : ∀ key : UInt64, store.filed[key]? ≠ some #[]
  counted : ∑ id, (store.get id).length = store.size

lemma consistent_empty : empty.Consistent where
  own id := by simp
  filled key := by simp [empty]
  counted := by
    simp only [get_empty, List.length_nil, Finset.sum_const_zero]
    rfl

lemma get_insert (store : DefinitionStore) (d : Definition) (id : AxiomId) :
    (store.insert d).get id = if d.id = id then store.get id ++ [d] else store.get id := by
  split_ifs with here
  · rw [← here, get_insert_self]
  · exact get_insert_of_ne store here

lemma Consistent.insert {store : DefinitionStore} (h : store.Consistent) (d : Definition) :
    (store.insert d).Consistent where
  own id := by
    rw [get_insert]
    split_ifs with here
    · rw [List.forall_mem_append, List.forall_mem_singleton]
      exact ⟨h.own id, here⟩
    · exact h.own id
  filled key := by
    rw [DefinitionStore.insert, Std.ExtTreeMap.getElem?_insert]
    split_ifs
    · simp
    · exact h.filled key
  counted := by
    have lengths : ∀ id, ((store.insert d).get id).length =
        (store.get id).length + if d.id = id then 1 else 0 := by
      intro id
      rw [get_insert]
      split_ifs <;> simp
    simp only [lengths, Finset.sum_add_distrib, h.counted, Finset.sum_ite_eq, Finset.mem_univ,
      if_true]
    rfl

/-- **The records agree** whatever was filed. -/
lemma Consistent.foldl_insert {store : DefinitionStore} (h : store.Consistent)
    (definitions : List Definition) : (definitions.foldl DefinitionStore.insert store).Consistent := by
  induction definitions generalizing store with
  | nil => exact h
  | cons d definitions ih => exact ih (h.insert d)

lemma Consistent.getElem?_filed {store : DefinitionStore} (h : store.Consistent) (key : UInt64) :
    store.filed[key]? =
      if store.get ⟨key⟩ = [] then none else some (store.get ⟨key⟩).toArray := by
  have found := h.filled key
  rw [get, Std.ExtTreeMap.getD_eq_getD_getElem?]
  cases filed : store.filed[key]? with
  | none => simp
  | some definitions =>
    rw [filed] at found
    have nonempty : definitions ≠ #[] := fun none => found (congrArg some none)
    simp [nonempty]

/-- **A consistent store is what is under its numbers.** -/
lemma Consistent.eq_of_get {store store' : DefinitionStore} (h : store.Consistent)
    (h' : store'.Consistent) (same : ∀ id, store'.get id = store.get id) : store' = store := by
  obtain ⟨filed, size⟩ := store
  obtain ⟨filed', size'⟩ := store'
  obtain rfl : filed' = filed := Std.ExtTreeMap.ext_getElem? fun key => by
    rw [h.getElem?_filed, h'.getElem?_filed, same]
  have counted : size' = size := h'.counted.symm.trans h.counted
  rw [counted]

lemma consistent_of_read {gci ri : Source} {store : DefinitionStore}
    (h : (read gci ri).outcome = .ok store) : store.Consistent := by
  rw [eq_foldl_insert_of_read h]
  exact (consistent_empty.foldl_insert _).foldl_insert _

/-- The order in which different numbers arrive does not matter. -/
lemma Consistent.eq_foldl_insert {store : DefinitionStore} (h : store.Consistent)
    {definitions : List Definition} (same : ∀ id, definitions.filter (·.id = id) = store.get id) :
    definitions.foldl DefinitionStore.insert empty = store :=
  h.eq_of_get (consistent_empty.foldl_insert definitions) fun id => by
    rw [get_foldl_insert, get_empty, List.nil_append, same]

/-- Looks for the definitions under a number in a table that is arranged in some way. -/
def lookUp (table : List (UInt64 × Array Definition)) (id : AxiomId) : List Definition :=
  match table.find? (·.1 = id.value) with
  | some row => row.2.toList
  | none => []

/-- **However a table is arranged**, it holds the same under every number. -/
lemma lookUp_of_perm {store : DefinitionStore} {table : List (UInt64 × Array Definition)}
    (h : table.Perm store.filed.toList) (id : AxiomId) : lookUp table id = store.get id := by
  have row : ∀ definitions, (id.value, definitions) ∈ table ↔
      store.filed[id.value]? = some definitions :=
    fun definitions => h.mem_iff.trans Std.ExtTreeMap.mem_toList_iff_getElem?_eq_some
  rw [lookUp, get, Std.ExtTreeMap.getD_eq_getD_getElem?]
  split
  next found search =>
    obtain ⟨key, definitions⟩ := found
    obtain rfl : key = id.value := by simpa using List.find?_some search
    rw [(row definitions).mp (List.mem_of_find?_eq_some search)]
    rfl
  next search =>
    have missing : store.filed[id.value]? = none :=
      Option.eq_none_iff_forall_ne_some.mpr fun definitions filed => by
        have unseen := List.find?_eq_none.mp search _ ((row definitions).mpr filed)
        simp at unseen
    rw [missing]
    rfl

end DefinitionStore

/-! ## Arrivals -/

/-- What can come to a store: a definition, or a source with any number of them. -/
inductive Arrival where
  | single (d : Definition)
  | batch (origin : Origin) (source : Source)

/-- The definitions that an arrival adds to a store. -/
def Arrival.definitions : Arrival → List Definition
  | single d => [d]
  | batch origin source => DefinitionStore.definitionsOf origin 1 source.lines

/-- Holds if a definition has the words of a line, and says where that line was. -/
structure Definition.ReadOff (origin : Origin) (row : Line × Nat) (d : Definition) : Prop where
  words : row.1.words = d.words
  origin : d.origin = origin
  line : d.line = row.2

/-- What can be wrong with a line of definitions. -/
inductive Line.Faulty (origin : Origin) (number : Nat) : Line → Fault → Prop
  | unreadable : Faulty origin number .unreadable (.unreadableLine number)
  | noNumber {line : Line} {word : String} {rest : List String} (words : line.words = word :: rest)
      (unread : AxiomId.ofWord? word = none) : Faulty origin number line (.badWord word number)
  | noRelation {line : Line} {word : String} {id : AxiomId} (words : line.words = [word])
      (read : AxiomId.ofWord? word = some id) :
      Faulty origin number line (.incompleteDefinition origin number)

lemma Definition.place_of_ofWords {origin : Origin} {line : Nat} {ws : List String} {d : Definition}
    (h : ofWords origin line ws = .ok d) : d.origin = origin ∧ d.line = line := by
  rw [ofWords.eq_def] at h
  split at h
  next => contradiction
  next =>
    split at h
    next => contradiction
    next => contradiction
    next =>
      cases h
      exact ⟨rfl, rfl⟩

lemma Line.faulty_of_ofWords {origin : Origin} {number : Nat} {content : String} {fault : Fault}
    (filled : Text.words content ≠ [])
    (h : Definition.ofWords origin number (Text.words content) = .error fault) :
    Faulty origin number (.text content) fault := by
  rw [Definition.ofWords.eq_def] at h
  split at h
  next blank => exact absurd blank filled
  next word rest words =>
    split at h
    next unread =>
      cases h
      exact .noNumber words unread
    next read =>
      cases h
      exact .noRelation words read
    next => contradiction

namespace DefinitionStore

/-- What comes to a store, goes into it. -/
def receive (store : DefinitionStore) : Arrival → DefinitionStore
  | .single d => store.insert d
  | .batch origin source => (store.readSource origin source).state

/-- **An arrival is its definitions**, filed one after the other. -/
lemma receive_eq (store : DefinitionStore) (arrival : Arrival) :
    store.receive arrival = arrival.definitions.foldl insert store := by
  cases arrival with
  | single d => rfl
  | batch origin source => exact state_visitLines origin 1 store source.lines

lemma foldl_receive (arrivals : List Arrival) (store : DefinitionStore) :
    arrivals.foldl receive store = (arrivals.flatMap Arrival.definitions).foldl insert store := by
  induction arrivals generalizing store with
  | nil => rfl
  | cons arrival arrivals ih =>
    rw [List.foldl_cons, ih, receive_eq, List.flatMap_cons, List.foldl_append]

/-- **The definitions under a number** are those it had, and those that have arrived. -/
lemma get_foldl_receive (store : DefinitionStore) (further : List Arrival) (id : AxiomId) :
    (further.foldl receive store).get id =
      store.get id ++ (further.flatMap Arrival.definitions).filter (·.id = id) := by
  rw [foldl_receive, get_foldl_insert]

/-- Holds if a reading is at its end after the first `k` lines: because there are no more, or because
the next one is at fault. -/
def EndsAfter (origin : Origin) (number : Nat) (lines : List Line) (k : Nat) :
    Option Fault → Prop
  | none => k = lines.length
  | some fault => ∃ line, lines[k]? = some line ∧ line.Faulty origin (number + k) fault

lemma EndsAfter.succ {origin : Origin} {number k : Nat} {lines : List Line} {fault : Option Fault}
    (h : EndsAfter origin (number + 1) lines k fault) (line : Line) :
    EndsAfter origin number (line :: lines) (k + 1) fault := by
  cases fault with
  | none => exact congrArg Nat.succ h
  | some fault => rwa [EndsAfter, Nat.add_assoc, Nat.add_comm 1 k] at h

/-- Holds if a reading of some lines gets through the first `k` of them and leaves their
definitions. -/
structure GetsThrough (origin : Origin) (number : Nat) (lines : List Line) (k : Nat)
    (definitions : List Definition) (fault : Option Fault) : Prop where
  definitions : List.Forall₂ (Definition.ReadOff origin) (filledLines number (lines.take k))
    definitions
  readable : .unreadable ∉ lines.take k
  ends : EndsAfter origin number lines k fault

namespace GetsThrough

variable {origin : Origin} {number k : Nat} {lines : List Line} {content : String}
  {definitions : List Definition} {fault : Option Fault}

lemma nil (origin : Origin) (number : Nat) : GetsThrough origin number [] 0 [] none :=
  ⟨.nil, List.not_mem_nil, rfl⟩

lemma faulty {line : Line} {fault : Fault} (h : line.Faulty origin number fault)
    (lines : List Line) : GetsThrough origin number (line :: lines) 0 [] (some fault) :=
  ⟨.nil, List.not_mem_nil, line, rfl, h⟩

lemma blank (h : GetsThrough origin (number + 1) lines k definitions fault)
    (blank : Text.words content = []) :
    GetsThrough origin number (.text content :: lines) (k + 1) definitions fault := by
  refine ⟨?_, ?_, h.ends.succ _⟩
  · rw [List.take_succ_cons, filledLines_cons_of_blank blank]
    exact h.definitions
  · simpa using h.readable

lemma filled (h : GetsThrough origin (number + 1) lines k definitions fault)
    (filled : Text.words content ≠ []) {d : Definition}
    (made : Definition.ofWords origin number (Text.words content) = .ok d) :
    GetsThrough origin number (.text content :: lines) (k + 1) (d :: definitions) fault := by
  refine ⟨?_, ?_, h.ends.succ _⟩
  · rw [List.take_succ_cons, filledLines_cons filled]
    obtain ⟨origin, line⟩ := Definition.place_of_ofWords made
    exact .cons ⟨(Definition.words_of_ofWords made).symm, origin, line⟩ h.definitions
  · simpa using h.readable

/-- Without a fault, it is all lines. -/
lemma all (h : GetsThrough origin number lines k definitions none) :
    List.Forall₂ (Definition.ReadOff origin) (filledLines number lines) definitions := by
  obtain rfl : k = lines.length := h.ends
  have all := h.definitions
  rwa [List.take_length] at all

end GetsThrough

/-- **A source leaves the definitions of its first lines**, up to the line at fault if there is
one. -/
lemma exists_getsThrough (origin : Origin) (number : Nat) (store : DefinitionStore)
    (lines : List Line) :
    ∃ k, GetsThrough origin number lines k (definitionsOf origin number lines)
      (visitLines (visit origin) number store lines).fault := by
  induction lines generalizing number store with
  | nil => exact ⟨0, .nil origin number⟩
  | cons line rest ih =>
    cases line with
    | unreadable => exact ⟨0, .faulty .unreadable rest⟩
    | text content =>
      rw [definitionsOf, visitLines, visit_eq]
      by_cases blank : Text.words content = []
      · simp only [if_pos blank]
        obtain ⟨k, through⟩ := ih (number + 1) store
        exact ⟨k + 1, through.blank blank⟩
      · simp only [if_neg blank]
        cases made : Definition.ofWords origin number (Text.words content) with
        | error fault => exact ⟨0, .faulty (Line.faulty_of_ofWords blank made) rest⟩
        | ok d =>
          obtain ⟨k, through⟩ := ih (number + 1) (store.insert d)
          exact ⟨k + 1, through.filled blank made⟩

/-- All definitions that a store was read from. -/
lemma forall₂_definitionsOf (origin : Origin) (store : DefinitionStore) (source : Source)
    (h : (store.readSource origin source).fault = none) :
    List.Forall₂ (Definition.ReadOff origin) (filledLines 1 source.lines)
      (definitionsOf origin 1 source.lines) := by
  obtain ⟨k, through⟩ := exists_getsThrough origin 1 store source.lines
  rw [readSource, Source.read] at h
  rw [h] at through
  exact through.all

/-- **A store over time.**  Whatever arrives at an empty store, there are under every number the
definitions with that number, in the order of their arrival, and all of them are counted.  A source
leaves the definitions of its lines, each with the number of its line; if a line is at fault, those
of the lines before it.  So a store that is read from two sources has under every number the
definitions of the first source and then those of the second, line by line; and neither the order
in which different numbers arrived nor the arrangement of a table matters. -/
theorem filed_by_arrivals (arrivals : List Arrival) :
    let store := arrivals.foldl receive empty
    let arrived := arrivals.flatMap Arrival.definitions
    (∀ id, store.get id = arrived.filter (·.id = id) ∧ ∀ d ∈ store.get id, d.id = id) ∧
    ∑ id, (store.get id).length = store.size ∧
    (∀ origin source,
      let reading := store.readSource origin source
      let left := (Arrival.batch origin source).definitions
      reading.state = left.foldl insert store ∧
        ∃ k, GetsThrough origin 1 source.lines k left reading.fault) ∧
    ∀ gci ri result, (read gci ri).outcome = .ok result →
      (∃ concepts roles, List.Forall₂ (Definition.ReadOff .gci) (filledLines 1 gci.lines) concepts ∧
        List.Forall₂ (Definition.ReadOff .ri) (filledLines 1 ri.lines) roles ∧
        ∀ id, result.get id = concepts.filter (·.id = id) ++ roles.filter (·.id = id)) ∧
      (∀ definitions : List Definition, (∀ id, definitions.filter (·.id = id) = result.get id) →
        definitions.foldl insert empty = result) ∧
      ∀ table, table.Perm result.filed.toList → ∀ id, lookUp table id = result.get id := by
  intro store arrived
  have filed : store = arrived.foldl insert empty := foldl_receive arrivals empty
  have consistent : store.Consistent := filed ▸ consistent_empty.foldl_insert arrived
  refine ⟨fun id => ⟨?_, consistent.own id⟩, consistent.counted, fun origin source => ?_,
    fun gci ri result read => ?_⟩
  · exact (get_foldl_receive empty arrivals id).trans (by rw [get_empty, List.nil_append])
  · exact ⟨receive_eq store (.batch origin source), exists_getsThrough origin 1 store source.lines⟩
  · obtain ⟨conceptsRead, rolesRead, -⟩ := reads_of_read read
    have agrees := consistent_of_read read
    exact ⟨⟨_, _, forall₂_definitionsOf _ _ _ conceptsRead, forall₂_definitionsOf _ _ _ rolesRead,
      get_of_read read⟩, fun definitions => agrees.eq_foldl_insert, fun table => lookUp_of_perm⟩

/-- A definition arrives, and then a source whose fourth line has a number and nothing else: what
comes before that line stays, and what comes after it is never seen. -/
theorem filed_by_broken_source :
    let first : Definition := ⟨⟨7⟩, "implies", ["A", "B"], .gci, 1⟩
    let roles := Source.ofText "7 implies-role r s\n\n9 transitive r\n7\n8 transitive s\n"
    let store := [Arrival.single first, .batch .ri roles].foldl receive empty
    store.get ⟨7⟩ = [first, ⟨⟨7⟩, "implies-role", ["r", "s"], .ri, 1⟩] ∧
      store.get ⟨9⟩ = [⟨⟨9⟩, "transitive", ["r"], .ri, 3⟩] ∧ store.get ⟨8⟩ = [] ∧
      ∑ id, (store.get id).length = 3 ∧
      (empty.readSource .ri roles).fault = some (.incompleteDefinition .ri 4) ∧
      ∃ result, (read (.ofText "2 a b\n1 c d\n") (.ofText "2 e f\n")).outcome = .ok result ∧
        ∀ table, table.Perm result.filed.toList → (lookUp table ⟨2⟩).length = 2 := by
  intro first roles store
  obtain ⟨filed, counted, -, whole⟩ := filed_by_arrivals [.single first, .batch .ri roles]
  have read : ∃ result, (read (.ofText "2 a b\n1 c d\n") (.ofText "2 e f\n")).outcome = .ok result ∧
    (result.get ⟨2⟩).length = 2 := ⟨_, rfl, rfl⟩
  obtain ⟨result, read, two⟩ := read
  obtain ⟨-, -, arranged⟩ := whole _ _ result read
  refine ⟨(filed ⟨7⟩).1, (filed ⟨9⟩).1, (filed ⟨8⟩).1, counted, rfl, result, read, ?_⟩
  intro table arrangement
  rw [arranged table arrangement, two]

end DefinitionStore

end AxiomPinpointing
