import AxiomPinpointing.Literal.Checked

/-!
# Clauses

A clause is a disjunction of literals, kept in the order in which it was written, repetitions
included.  In text its literals stand side by side, and a 0 ends it.

* `Clause.topVar` — the greatest variable.
* `Clause.text`, `Clause.terminated` — a clause without and with its terminator.
* `Clause.ofWords` — the reader, which says what is wrong with a line that is no clause.
-/

namespace AxiomPinpointing

structure Clause where
  literals : List Literal
deriving DecidableEq

namespace Clause

/-- The greatest variable, or 0 if there is none. -/
def topVar (clause : Clause) : UInt64 :=
  clause.literals.foldl (fun top l => max top l.var) 0

def text (clause : Clause) : String :=
  " ".intercalate (clause.literals.map toString)

/-- The literals and the terminator, side by side. -/
def terminated (clause : Clause) : String :=
  " ".intercalate ((clause.literals ++ [Literal.terminator]).map toString)

end Clause

/-! ## Reading -/

namespace Clause

/-- The literals up to the terminator, which has to be there and to be the last word.  Once the
terminator has been found, a further word is a fault whatever it is. -/
def literalsOfWords (line : Nat) : List String → Except Fault (List Literal)
  | [] => .error (.missingTerminator line)
  | word :: rest => do
    let l ← Literal.ofWord line word
    if l = Literal.terminator then
      if rest.isEmpty then .ok [] else .error (.misplacedTerminator line)
    else
      let ls ← literalsOfWords line rest
      .ok (l :: ls)

/-- Reads the words of a line as a clause. -/
def ofWords (line : Nat) (words : List String) : Except Fault Clause :=
  (literalsOfWords line words).map Clause.mk

end Clause

end AxiomPinpointing
