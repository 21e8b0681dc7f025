import Std.Data.ExtTreeMap
import AxiomPinpointing.Axiom
import AxiomPinpointing.Source
import AxiomPinpointing.Text.Words

/-!
# The definitions of an ontology

Definitions are filed under their numbers, and stay in the order in which they arrive.  The number
of all definitions is kept alongside, so that it need not be summed up.

* `Definition.ofWords` — a definition from the words of a line.
* `DefinitionStore.insert` — files a definition.
* `DefinitionStore.get` — the definitions under a number, oldest first.
* `DefinitionStore.readSource` — files the definitions of one source.  If a line is at fault, what
  came before it has been filed.
* `DefinitionStore.read` — a store from the two sources, inclusions between concepts first.
-/

namespace AxiomPinpointing

/-- Reads the words of a line as a definition: a number, a relation, and operands. -/
def Definition.ofWords (origin : Origin) (line : Nat) : List String → Except Fault Definition
  | [] => .error (.incompleteDefinition origin line)
  | word :: rest =>
    match AxiomId.ofWord? word, rest with
    | none, _ => .error (.badWord word line)
    | some _, [] => .error (.incompleteDefinition origin line)
    | some id, relation :: operands => .ok ⟨id, relation, operands, origin, line⟩

/-- Definitions, filed under their numbers. -/
structure DefinitionStore where
  filed : Std.ExtTreeMap UInt64 (Array Definition) := ∅
  size : Nat := 0

namespace DefinitionStore

def empty : DefinitionStore := {}

/-- The definitions under a number, oldest first. -/
def get (store : DefinitionStore) (id : AxiomId) : List Definition :=
  (store.filed.getD id.value #[]).toList

def insert (store : DefinitionStore) (d : Definition) : DefinitionStore :=
  { filed := store.filed.insert d.id.value ((store.filed.getD d.id.value #[]).push d)
    size := store.size + 1 }

def axiomCount (store : DefinitionStore) : Nat :=
  store.filed.size

@[simp] theorem get_empty (id : AxiomId) : empty.get id = [] := by
  simp [get, empty]

theorem get_insert_self (store : DefinitionStore) (d : Definition) :
    (store.insert d).get d.id = store.get d.id ++ [d] := by
  simp [get, insert]

theorem get_insert_of_ne (store : DefinitionStore) {d : Definition} {id : AxiomId}
    (h : d.id ≠ id) : (store.insert d).get id = store.get id := by
  have hv : d.id.value ≠ id.value := fun hv => h (congrArg AxiomId.mk hv)
  simp [get, insert, Std.ExtTreeMap.getD_insert, hv]

/-! ## Reading -/

/-- Files the definition of a line, unless the line is blank. -/
def visit (origin : Origin) (number : Nat) (line : String) (store : DefinitionStore) :
    Step DefinitionStore :=
  match Text.words line with
  | [] => .next store
  | words => .update store (Definition.ofWords origin number words) insert

def readSource (store : DefinitionStore) (origin : Origin) (source : Source) :
    Reading DefinitionStore :=
  source.read (visit origin) store

/-- **A store from the two sources.** -/
def read (gci ri : Source) : Run DefinitionStore := do
  let concepts ← Run.ofExcept (empty.readSource .gci gci).outcome
  let store ← Run.ofExcept (concepts.readSource .ri ri).outcome
  Run.note .info .parse s!"Read {store.size} definitions of {store.axiomCount} axioms"
  pure store

end DefinitionStore

end AxiomPinpointing
