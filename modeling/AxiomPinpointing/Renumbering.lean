import Std.Data.ExtTreeMap
import AxiomPinpointing.Fault

/-!
# Renumbering

The axioms of a module are numbered anew from 1, in the order of the module.  A renumbering records
which axiom is at which **place**: its k-th entry has the place k, with the number and the text of
the k-th axiom.  Written out, it is the index map that goes with a fragment.

Looking up by place is a matter of counting.  For the other direction there is a table of the
position of the first entry of every number; a number may have several entries, as a module may
list it repeatedly.

* `Renumbering.push` — adds an axiom, and says at which place.
* `Renumbering.idAt`, `Renumbering.textAt` — what is at a place.
* `Renumbering.placeOf` — the first place of a number.
* `Renumbering.text` — the written form: a line per entry, with place, number and text.
-/

namespace AxiomPinpointing

structure Entry where
  /-- The place, as it was when the entry was made. -/
  place : Nat
  id : AxiomId
  text : String
deriving DecidableEq, Inhabited

/-- The axioms of a module, numbered from 1. -/
structure Renumbering where
  entries : Array Entry := #[]
  /-- The position of the first entry of each number, counted from 0. -/
  positions : Std.ExtTreeMap UInt64 Nat := ∅

namespace Renumbering

def empty : Renumbering := {}

def size (map : Renumbering) : Nat :=
  map.entries.size

/-- Adds an axiom at the next place, which is returned.  If its number has an entry already, that
one remains its first. -/
def push (map : Renumbering) (id : AxiomId) (text : String) : Nat × Renumbering :=
  let place := map.entries.size + 1
  (place,
    { entries := map.entries.push ⟨place, id, text⟩
      positions := map.positions.insertIfNew id.value map.entries.size })

/-- Adds an axiom, whatever its place. -/
def add (map : Renumbering) (listed : AxiomId × String) : Renumbering :=
  (map.push listed.1 listed.2).2

@[simp] theorem entries_add (map : Renumbering) (listed : AxiomId × String) :
    (map.add listed).entries = map.entries.push ⟨map.size + 1, listed.1, listed.2⟩ := rfl

@[simp] theorem size_add (map : Renumbering) (listed : AxiomId × String) :
    (map.add listed).size = map.size + 1 :=
  Array.size_push _

/-! ## Looking up -/

/-- The entry at a place; places are counted from 1. -/
def entryAt? (map : Renumbering) : Nat → Option Entry
  | 0 => none
  | place + 1 => map.entries[place]?

/-- The entry at a place, or the fault that there is none. -/
def entryAt (map : Renumbering) (place : Nat) : Except Fault Entry :=
  match map.entryAt? place with
  | some entry => .ok entry
  | none => .error (.noEntry (toString place))

/-- The number of the axiom at a place. -/
def idAt (map : Renumbering) (place : Nat) : Except Fault AxiomId :=
  (map.entryAt place).map Entry.id

def textAt (map : Renumbering) (place : Nat) : Except Fault String :=
  (map.entryAt place).map Entry.text

/-- The place that the first entry of a number has. -/
def placeOf (map : Renumbering) (id : AxiomId) : Except Fault Nat :=
  match map.positions[id.value]? with
  | some position => .ok map.entries[position]!.place
  | none => .error (.noEntry (toString id))

end Renumbering

/-! ## Writing -/

def Entry.line (entry : Entry) : String :=
  s!"{entry.place} {entry.id} {entry.text}\n"

/-- **The written form.** -/
def Renumbering.text (map : Renumbering) : String :=
  String.join (map.entries.toList.map Entry.line)

end AxiomPinpointing
