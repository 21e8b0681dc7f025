import AxiomPinpointing.Axiom.Terms
import AxiomPinpointing.Fault
import AxiomPinpointing.Settings

/-!
# From definitions to an axiom

All definitions under one number have to make one axiom.  One definition is that axiom; two may be
the halves of an equivalence; more are ambiguous, and none is a faulty reference.  Whether two
definitions make an equivalence is for the strategy to say: either any two do, or the second has to
be the **converse** of the first, that is, to relate the same terms in the opposite order.

* `Definition.isReversedBy` — the same relation, and the terms reversed.
* `PairStrategy.accepts` — the strategies.
* `Axiom.ofDefinitions` — the axiom that some definitions make.
-/

namespace AxiomPinpointing

namespace Definition

/-- In the bracketed notation the relation opens a parenthesis that the operands close. -/
def isOpened (d : Definition) : Bool :=
  d.relation.toList.head? = some '('

/-- The terms that are related, if the parentheses match. -/
def terms? (d : Definition) : Option (List (List Char)) :=
  AxiomPinpointing.terms? d.operands d.isOpened

/-- Holds if the second definition says of the reversed terms what the first says of its own. -/
def isReversedBy (first second : Definition) : Bool :=
  first.relation = second.relation &&
    match first.terms?, second.terms? with
    | some terms, some others => terms.reverse = others
    | _, _ => false

end Definition

/-- Holds if the strategy takes two definitions for an equivalence. -/
def PairStrategy.accepts : PairStrategy → Definition → Definition → Bool
  | .count, _, _ => true
  | .converse, first, second => first.isReversedBy second

/-- **The axiom that the definitions under a number make.** -/
def Axiom.ofDefinitions (strategy : PairStrategy) (id : AxiomId) :
    List Definition → Except Fault Axiom
  | [] => .error (.undefinedAxiom id)
  | [d] => .ok (.directional d)
  | [first, second] =>
    if strategy.accepts first second then .ok (.equivalence first)
    else .error (.ambiguousAxiom id 2)
  | definitions => .error (.ambiguousAxiom id definitions.length)

end AxiomPinpointing
