import AxiomPinpointing.Fault

/-!
# Literals, checked

The two operations on literals that can fail.

* `Literal.ofWord` — reads a literal, and blames the word.
* `Literal.opposite` — negates a literal, and blames the literal.
-/

namespace AxiomPinpointing.Literal

/-- Reads the word of a literal; 0 is accepted, and what it means is up to the caller. -/
def ofWord (line : Nat) (word : String) : Except Fault Literal :=
  match Text.signed64? word with
  | some value => .ok ⟨value⟩
  | none => .error (.badWord word line)

/-- The negation of a literal.  The terminator has none, as it is no literal, and neither has
`least`, whose opposite does not fit. -/
def opposite (l : Literal) : Except Fault Literal :=
  if l = terminator then .error .zeroLiteral
  else if l = least then .error (.unnegatable l)
  else .ok ⟨-l.value⟩

end AxiomPinpointing.Literal
