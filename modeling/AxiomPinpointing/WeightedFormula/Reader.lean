import AxiomPinpointing.Source
import AxiomPinpointing.Text.Words
import AxiomPinpointing.WeightedFormula

/-!
# Reading weighted formulas

The reader is exact where the reader of plain formulas is generous.  There has to be one problem
line, in front of all clauses, of exactly five words, and the number of clauses it announces has to
be the number of clauses that follow.  Blank lines are passed over, and so are comments: the lines
whose first word is `c`, and not merely begins with it.

* `WeightedFormula.Draft` — what has been read: nothing before the problem line, and after it the
  announced number of clauses with the formula so far.
* `WeightedFormula.read` — reads a source.
-/

namespace AxiomPinpointing.WeightedFormula

structure Draft where
  /-- The number of clauses that the problem line announced. -/
  announced : UInt64
  formula : WeightedFormula
deriving DecidableEq

/-- Reads the words of a problem line after the first, which is `p`. -/
def Draft.ofProblem? : List String → Option Draft
  | ["wcnf", topVar, count, hardWeight] => do
    let topVar ← Text.unsigned64? topVar
    let count ← Text.unsigned64? count
    let hardWeight ← Text.unsigned64? hardWeight
    some ⟨count, { topVar, hardWeight }⟩
  | _ => none

def Draft.add (draft : Draft) (weighted : WeightedClause) : Draft :=
  { draft with formula := draft.formula.add weighted }

/-- The clause of a line, given by a weight, which is judged first, and the words of a clause. -/
def clauseOfWords (number : Nat) (weight : String) (rest : List String) :
    Except Fault WeightedClause :=
  match Text.unsigned64? weight with
  | none => .error (.badWord weight number)
  | some value => (Clause.ofWords number rest).map (⟨value, ·⟩)

def visit (number : Nat) (line : String) (draft : Option Draft) : Step (Option Draft) :=
  match Text.words line, draft with
  | [], _ | "c" :: _, _ => .next draft
  | "p" :: problem, none =>
    match Draft.ofProblem? problem with
    | some start => .next (some start)
    | none => .fail .problemLine draft
  | "p" :: _, some _ => .fail .problemLine draft
  | _ :: _, none => .fail .problemLine draft
  | weight :: _, some _ =>
    -- The line is cut once more, at the first blank behind the weight.
    let rest := Text.words (Text.behindWord line)
    .update draft (clauseOfWords number weight rest) fun draft weighted =>
      draft.map (·.add weighted)

/-- The finished formula, if it has the announced number of clauses. -/
def Draft.finish : Option Draft → Except Fault WeightedFormula
  | some draft =>
    if draft.announced.toNat = draft.formula.size then .ok draft.formula else .error .problemLine
  | none => .error .problemLine

def read (source : Source) : Except Fault WeightedFormula :=
  (source.read visit none).outcome >>= Draft.finish

end AxiomPinpointing.WeightedFormula
