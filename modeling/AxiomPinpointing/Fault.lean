import AxiomPinpointing.Axiom
import AxiomPinpointing.Literal
import AxiomPinpointing.Refusal
import AxiomPinpointing.Text.Quoted

/-!
# Faults

Everything that can go wrong, as causes.  A fault says *what* was found and where; how it is worded
is decided once, in `Fault.message`.  Faults fall into four categories, which is what callers that
only want to know whose mistake it was look at.

* `Fault` — the causes.
* `Fault.message` — the wording of each.
* `Fault.category` — malformed input, a reference to nothing, an ambiguous definition, or a failure
  to write.
* `Fault.report` — category and message, as shown to the user.
-/

namespace AxiomPinpointing

/-- The cause of a failure. -/
inductive Fault where
  /-- A clause source without clauses. -/
  | noClauses
  /-- A line that is not text, or in which the source broke off. -/
  | unreadableLine (line : Nat)
  /-- A word that does not have the form expected of it. -/
  | badWord (word : String) (line : Nat)
  /-- A line that should end with 0 and does not. -/
  | missingTerminator (line : Nat)
  /-- A 0 in front of the place where it belongs. -/
  | misplacedTerminator (line : Nat)
  /-- A 0 where a literal is needed. -/
  | zeroLiteral
  /-- A literal whose opposite does not fit. -/
  | unnegatable (literal : Literal)
  /-- A definition with a number and nothing else. -/
  | incompleteDefinition (origin : Origin) (line : Nat)
  /-- A warning, where warnings are not tolerated. -/
  | strict (warning : String)
  /-- No problem line, a second one, one out of place, or one that the clauses contradict. -/
  | problemLine
  /-- An axiom that is listed in a module and defined nowhere. -/
  | undefinedAxiom (id : AxiomId)
  /-- An axiom whose definitions do not make one axiom. -/
  | ambiguousAxiom (id : AxiomId) (count : Nat)
  /-- An entry of an index map out of turn. -/
  | outOfSequence (line found : Nat)
  /-- An entry of an index map with less than three words. -/
  | incompleteEntry (line : Nat)
  /-- A number that an index map says nothing about. -/
  | noEntry (key : String)
  /-- A file that could not be written. -/
  | unwritable (path : String) (refusal : Refusal)
deriving DecidableEq

/-- The kinds of mistake. -/
inductive Category where
  | malformedInput
  | faultyReference
  | ambiguousDefinition
  | writeFailure
deriving DecidableEq

/-- The name of a category, as shown to the user. -/
def Category.name : Category → String
  | malformedInput => "MalformedInput"
  | faultyReference => "FaultyReference"
  | ambiguousDefinition => "AmbiguousDefinition"
  | writeFailure => "WriteFailure"

namespace Fault

/-- The kind of mistake behind a fault. -/
def category : Fault → Category
  | undefinedAxiom _ | noEntry _ => .faultyReference
  | ambiguousAxiom _ _ => .ambiguousDefinition
  | unwritable _ _ => .writeFailure
  | _ => .malformedInput

/-- The wording of a fault. -/
def message : Fault → String
  | noClauses => "no clauses in the clause source"
  | unreadableLine line => s!"unable to read line {line}"
  | badWord word line => s!"unparsable token {Text.quote word} at line {line}"
  | missingTerminator line => s!"missing terminator at line {line}"
  | misplacedTerminator line => s!"terminator before end of line {line}"
  | zeroLiteral => "0 is not a literal"
  | unnegatable literal => s!"the literal {literal} cannot be negated"
  | incompleteDefinition origin line => s!"no axiom after the identifier at {origin} line {line}"
  | strict warning => s!"{warning} (strict)"
  | problemLine => "missing or invalid problem line"
  | undefinedAxiom id => s!"axiom {id} is referenced but not defined"
  | ambiguousAxiom id count => s!"axiom {id} has {count} conflicting definitions"
  | outOfSequence line found => s!"sequence index {found} at line {line} breaks the run from 1"
  | incompleteEntry line => s!"incomplete entry at line {line}"
  | noEntry key => s!"no entry for {key}"
  | unwritable path refusal => s!"unable to write {Text.quote path} ({refusal.message})"

/-- The category of a fault and its message. -/
def report (fault : Fault) : String :=
  s!"{fault.category.name}: {fault.message}"

end Fault

end AxiomPinpointing
