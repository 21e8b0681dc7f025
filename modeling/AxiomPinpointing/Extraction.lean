import AxiomPinpointing.Axiom.FromDefinitions
import AxiomPinpointing.AxiomModule
import AxiomPinpointing.DefinitionStore
import AxiomPinpointing.Renumbering

/-!
# Extracting a module

The axioms of a module, taken from the definitions of the whole ontology: for each number of the
module, in order and as often as it is listed, the axiom that its definitions make.  The result can
be written as a **fragment** of the ontology, one axiom per line, and the renumbering says which
axiom each line is.

* `Extraction` — the axioms and their renumbering.
* `Extraction.ofModule` — extracts a module that is at hand; the first number without an axiom is a
  fault, and is logged.
* `Extraction.ofSources` — extracts from three sources.
* `Extraction.fragment` — the fragment.
-/

namespace AxiomPinpointing

structure Extraction where
  axioms : Array Axiom := #[]
  renumbering : Renumbering := .empty

namespace Extraction

/-- The extraction of the empty module. -/
def empty : Extraction := {}

/-- Adds the axiom with the given number. -/
def push (extraction : Extraction) (marker : String) (id : AxiomId) (a : Axiom) : Extraction :=
  { axioms := extraction.axioms.push a
    renumbering := extraction.renumbering.add (id, a.text marker) }

def fragment (extraction : Extraction) : String :=
  String.join (extraction.renumbering.entries.toList.map fun entry => entry.text ++ "\n")

/-- How many of the axioms are equivalences. -/
def equivalenceCount (extraction : Extraction) : Nat :=
  extraction.axioms.countP Axiom.isEquivalence

/-! ## From a module -/

/-- An outcome; if it is a fault, the fault is logged. -/
def logged {α : Type} : Except Fault α → Run α
  | .ok a => pure a
  | .error fault => ⟨.error fault, [⟨.error, .extract, fault.message⟩]⟩

def next (settings : Settings) (store : DefinitionStore) (extraction : Extraction)
    (id : AxiomId) : Run Extraction := do
  let a ← logged (Axiom.ofDefinitions settings.pairs.value id (store.get id))
  pure (extraction.push settings.marker id a)

/-- **Extracts a module that is at hand.** -/
def ofModule (settings : Settings) (store : DefinitionStore) (ids : List AxiomId) :
    Run Extraction := do
  let extraction ← ids.foldlM (next settings store) empty
  Run.note .info .extract <|
    s!"Extracted {extraction.axioms.size} axioms, " ++
    s!"of which {extraction.equivalenceCount} are equivalences"
  pure extraction

/-- **Extracts from three sources**: the two of definitions, and that of the module. -/
def ofSources (settings : Settings) (gci ri moduleSource : Source) : Run Extraction := do
  let store ← DefinitionStore.read gci ri
  let ids ← AxiomModule.read moduleSource
  ofModule settings store ids

end Extraction

end AxiomPinpointing
