import AxiomPinpointing.Axiom
import AxiomPinpointing.Source
import AxiomPinpointing.Text.Words

/-!
# Modules

A module is a list of axioms, given by their numbers on one line that ends with 0.  The tools that
write modules may write several, each better than the one before, so **only the last line that is
not blank counts**.  The others are not even looked at, except that they have to be text; that a
line was passed over is logged.

* `AxiomModule.LastLine` — the last line seen so far that is not blank, and the log of the lines it
  replaced.
* `AxiomModule.ofLine` — the numbers on a line.
* `AxiomModule.read` — reads a module.
-/

namespace AxiomPinpointing.AxiomModule

/-- The last line seen that is not blank. -/
structure LastLine where
  /-- The line with its number, if there was one. -/
  line : Option (Nat × String) := none
  /-- What was passed over. -/
  log : Array Message := #[]
deriving DecidableEq

/-- The message about a line that was passed over for a later one. -/
def replaced (earlier later : Nat) : Message :=
  ⟨.warn, .parse, s!"Module line {earlier} replaced by line {later}"⟩

/-- Keeps a line that is not blank, in place of any before it. -/
def visit (number : Nat) (line : String) (last : LastLine) : Step LastLine :=
  if Text.isBlankLine line then .next last
  else
    match last.line with
    | none => .next ⟨some (number, line), last.log⟩
    | some (earlier, _) => .next ⟨some (number, line), last.log.push (replaced earlier number)⟩

def idOfWord (line : Nat) (word : String) : Except Fault AxiomId :=
  match AxiomId.ofWord? word with
  | some id => .ok id
  | none => .error (.badWord word line)

/-- The numbers on a line, which has to end with 0.  Unlike in clauses, only that spelling of it
ends a line, and 0 is also a number that an axiom may have. -/
def ofLine (number : Nat) (line : String) : Except Fault (List AxiomId) :=
  let words := Text.words line
  if words.getLast? = some "0" then words.dropLast.mapM (idOfWord number)
  else .error (.missingTerminator number)

/-- The numbers on the last line; no line at all is an empty module. -/
def LastLine.ids (last : LastLine) : Except Fault (List AxiomId) :=
  match last.line with
  | none => .ok []
  | some (number, line) => ofLine number line

/-- **Reads a module.** -/
def read (source : Source) : Run (List AxiomId) := do
  let reading := source.read visit {}
  Run.tell reading.state.log.toList
  let last ← Run.ofExcept reading.outcome
  let ids ← Run.ofExcept last.ids
  if ids.isEmpty then Run.note .warn .parse "Empty module"
  pure ids

end AxiomPinpointing.AxiomModule
