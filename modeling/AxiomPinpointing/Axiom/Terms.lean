import AxiomPinpointing.Text.Blank

/-!
# Terms of a definition

Words are not terms.  A compound operand such as `(and A B)` is several words, and in the bracketed
notation the last word of a definition also carries the parenthesis that closes the whole of it.
The terms are found by counting parentheses: a blank separates terms only outside of all of them.

* `termsFrom` — the terms of a text, from any depth and with a term already begun.
* `terms?` — the terms of some operands; there are none if the parentheses do not match.
-/

namespace AxiomPinpointing

/-- Puts a term, given backwards, in front of others; an empty one is no term. -/
def finishTerm (begun : List Char) (others : List (List Char)) : List (List Char) :=
  if begun.isEmpty then others else begun.reverse :: others

/-- **The terms of a text**, read at some depth of parentheses, where `begun` is what has been read
of the present term, backwards.  There are no terms if a parenthesis is closed that was not opened,
or is never closed. -/
def termsFrom : Nat → List Char → List Char → Option (List (List Char))
  | depth, begun, [] => if depth = 0 then some (finishTerm begun []) else none
  | depth, begun, c :: rest =>
    if c = '(' then termsFrom (depth + 1) (c :: begun) rest
    else if c = ')' then
      match depth with
      | 0 => none
      | depth + 1 => termsFrom depth (c :: begun) rest
    else if depth = 0 ∧ Text.isBlank c then (termsFrom 0 [] rest).map (finishTerm begun)
    else termsFrom depth (c :: begun) rest

/-- Takes the parenthesis off the end of a text. -/
def dropClosing? (text : List Char) : Option (List Char) :=
  if text.getLast? = some ')' then some text.dropLast else none

/-- The text of some operands, without the last parenthesis if that one belongs to the relation. -/
def operandText? (operands : List String) (opened : Bool) : Option (List Char) :=
  let text := (" ".intercalate operands).toList
  if opened then dropClosing? text else some text

def terms? (operands : List String) (opened : Bool) : Option (List (List Char)) :=
  operandText? operands opened >>= termsFrom 0 []

end AxiomPinpointing
