import AxiomPinpointing.Clause
import AxiomPinpointing.Source
import AxiomPinpointing.Text.Words

/-!
# Formulas

A formula in conjunctive normal form: clauses in order, and the greatest variable in use, which is
kept up to date as clauses are added rather than computed anew.

The reader is generous.  It takes one clause per line, and passes over blank lines and over every
line whose first letter is `c` (a comment) or `p` (a problem line); a line whose first letter is `%`
ends the formula, whatever follows.

* `Formula.push` — adds a clause.
* `Formula.read` — reads a clause source; there has to be a clause.
-/

namespace AxiomPinpointing

/-- A formula in conjunctive normal form. -/
structure Formula where
  clauses : Array Clause := #[]
  topVar : UInt64 := 0
deriving DecidableEq

namespace Formula

def empty : Formula := {}

def push (formula : Formula) (clause : Clause) : Formula :=
  { clauses := formula.clauses.push clause, topVar := max formula.topVar clause.topVar }

def ofList (clauses : List Clause) : Formula :=
  clauses.foldl push empty

def size (formula : Formula) : Nat :=
  formula.clauses.size

/-! ## Reading -/

def visit (number : Nat) (line : String) (formula : Formula) : Step Formula :=
  match Text.firstLetter? line with
  | none | some 'c' | some 'p' => .next formula
  | some '%' => .stop formula
  | some _ => .update formula (Clause.ofWords number (Text.words line)) push

def read (source : Source) : Run Formula := do
  let formula ← Run.ofExcept (source.read visit empty).outcome
  if formula.clauses.isEmpty then Run.fail .noClauses
  else do
    Run.note .info .parse s!"Read {formula.size} clauses with top variable {formula.topVar.toNat}"
    pure formula

end Formula

end AxiomPinpointing
