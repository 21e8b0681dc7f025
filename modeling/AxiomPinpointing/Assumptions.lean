import AxiomPinpointing.Literal.Checked
import AxiomPinpointing.Settings
import AxiomPinpointing.Source
import AxiomPinpointing.Text.Words

/-!
# Assumptions

Assumptions are literals in order, repetitions included.  They come in two layouts, and the readers
differ in what they look at.

* In a **column**, every line that is not blank counts, but only its first word.
* In a **row**, only the first line that is not blank counts, but all of its words; the last has to
  be the terminator, and is judged before the others.

The rest of the source does not matter in the second layout, and is not read.

* `Assumptions.ofWord` — an assumption, which may not be the terminator.
* `Assumptions.read` — reads assumptions in either layout.
-/

namespace AxiomPinpointing.Assumptions

def ofWord (line : Nat) (word : String) : Except Fault Literal := do
  let l ← Literal.ofWord line word
  if l = Literal.terminator then .error (.misplacedTerminator line) else .ok l

/-! ## The column -/

/-- What a line adds to the assumptions of a column. -/
def visitColumn (number : Nat) (line : String) (read : Array Literal) : Step (Array Literal) :=
  match Text.words line with
  | [] => .next read
  | word :: _ => .update read (ofWord number word) Array.push

/-! ## The row -/

/-- Reads the words of a row.  The last word is looked at first. -/
def ofRow (line : Nat) (words : List String) : Except Fault (List Literal) := do
  let last ← Literal.ofWord line (words.getLastD "")
  if last = Literal.terminator then words.dropLast.mapM (ofWord line)
  else .error (.missingTerminator line)

/-- Takes the first line that is not blank, and stops there. -/
def visitRow (number : Nat) (line : String) (read : Array Literal) : Step (Array Literal) :=
  match Text.words line with
  | [] => .next read
  | words =>
    match ofRow number words with
    | .ok assumptions => .stop assumptions.toArray
    | .error fault => .fail fault read

/-! ## Both -/

def visit : AssumptionLayout → Nat → String → Array Literal → Step (Array Literal)
  | .column => visitColumn
  | .row => visitRow

/-- **Reads assumptions.** -/
def read (layout : AssumptionLayout) (source : Source) : Run (List Literal) := do
  let assumptions ← Run.ofExcept (source.read (visit layout) #[]).outcome
  Run.note .info .parse s!"Read {assumptions.size} assumptions ({Keyword.word layout})"
  pure assumptions.toList

end AxiomPinpointing.Assumptions
