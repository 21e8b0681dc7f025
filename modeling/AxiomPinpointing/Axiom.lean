import AxiomPinpointing.Text.Numeral

/-!
# Axioms and their definitions

An ontology is normalised into numbered **definitions**: a relation with its operands, each word
kept as it was written.  General concept inclusions and role inclusions come in two separate
sources.  An **axiom** is what stands behind one number: a single inclusion, or an equivalence,
which the normalisation split into two inclusions under the same number.

* `AxiomId` — the number, read in its canonical spelling only.
* `Definition` — one numbered inclusion, with the place it was read from.
* `Axiom` — an inclusion, or an equivalence represented by the first of its two inclusions.
* `Axiom.text` — an axiom as a line of words.
-/

namespace AxiomPinpointing

/-! ## Identifiers -/

structure AxiomId where
  value : UInt64
deriving DecidableEq, Inhabited

namespace AxiomId

/-- Reads an identifier.  Only the canonical spelling is accepted, so that two identifiers are equal
exactly if their words are. -/
def ofWord? (word : String) : Option AxiomId :=
  (Text.canonical64? word).map AxiomId.mk

instance : ToString AxiomId where
  toString id := toString id.value.toNat

end AxiomId

/-! ## Definitions -/

inductive Origin where
  /-- General concept inclusions. -/
  | gci
  /-- Role inclusions. -/
  | ri
deriving DecidableEq

/-- The usual abbreviation of a source. -/
def Origin.abbreviation : Origin → String
  | .gci => "GCI"
  | .ri => "RI"

instance : ToString Origin where
  toString := Origin.abbreviation

/-- One numbered inclusion. -/
structure Definition where
  /-- The number it is filed under. -/
  id : AxiomId
  /-- The first word after the number. -/
  relation : String
  /-- The words after the relation. -/
  operands : List String
  origin : Origin
  /-- The line of the source, counted from 1. -/
  line : Nat
deriving DecidableEq

/-! ## Axioms -/

/-- What a number stands for. -/
inductive Axiom where
  /-- A single inclusion. -/
  | directional (definition : Definition)
  /-- An inclusion that holds in both directions; its first definition represents it. -/
  | equivalence (definition : Definition)
deriving DecidableEq

namespace Axiom

/-- The definition that represents the axiom. -/
def definition : Axiom → Definition
  | directional d => d
  | equivalence d => d

def id (a : Axiom) : AxiomId :=
  a.definition.id

def isEquivalence : Axiom → Bool
  | directional _ => false
  | equivalence _ => true

/-- The relation the axiom is written with: its own, or the marker of equivalences. -/
def relation (marker : String) : Axiom → String
  | directional d => d.relation
  | equivalence _ => marker

def text (marker : String) (a : Axiom) : String :=
  " ".intercalate (a.relation marker :: a.definition.operands)

end Axiom

end AxiomPinpointing
