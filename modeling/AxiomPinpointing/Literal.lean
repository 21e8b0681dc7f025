import AxiomPinpointing.Text.Numeral

/-!
# Literals

A literal is a variable or its negation, written as an integer: the variable's number, or that
number with a minus sign.  Literals are signed words of 64 bits.  The word 0 is no literal — in
clauses it marks the end — but it has to be passed around by readers, so it is a value of the type.

* `Literal.terminator` — the word 0.
* `Literal.least` — the one word whose opposite does not fit.
* `Literal.var` — the variable of a literal.
-/

namespace AxiomPinpointing

/-- A literal: a variable's number, negative where the variable is negated. -/
structure Literal where
  value : Int64
deriving DecidableEq

namespace Literal

def terminator : Literal := ⟨0⟩

/-- The one word whose opposite does not fit 64 bits. -/
def least : Literal := ⟨Int64.minValue⟩

/-- The number of the variable.  It is unsigned, so that `least` has a variable too. -/
def var (l : Literal) : UInt64 :=
  UInt64.ofNat l.value.toInt.natAbs

instance : ToString Literal where
  toString l := toString l.value.toInt

end Literal

end AxiomPinpointing
