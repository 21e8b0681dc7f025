import AxiomPinpointing.Renumbering
import AxiomPinpointing.Source
import AxiomPinpointing.Text.Words

/-!
# Reading index maps

A line that is not blank is an entry: its place, its number, and its text, which is the rest of the
line as it stands, from the third word to the last.  Places have to run from 1 without gaps.

Of several things wrong with a line, the missing of a word is reported first, then the place that is
no number, then the number, and last the place that is out of turn.

* `Renumbering.read` — reads a source.
-/

namespace AxiomPinpointing.Renumbering

/-- The axiom of a line, given by its first two words and the rest, and how many came before. -/
def entryOfWords (before line : Nat) (place id text : List Char) :
    Except Fault (AxiomId × String) :=
  match Text.unsigned64? (String.ofList place), AxiomId.ofWord? (String.ofList id) with
  | none, _ => .error (.badWord (String.ofList place) line)
  | some _, none => .error (.badWord (String.ofList id) line)
  | some place, some id =>
    if place.toNat = before + 1 then .ok (id, String.ofList text)
    else .error (.outOfSequence line place.toNat)

/-- Adds the axiom of a line, unless the line is blank. -/
def visit (number : Nat) (line : String) (map : Renumbering) : Step Renumbering :=
  let content := Text.trim line.toList
  if content.isEmpty then .next map
  else
    let (place, afterPlace) := Text.takeWord content
    let (id, text) := Text.takeWord afterPlace
    if text.isEmpty then .fail (.incompleteEntry number) map
    else .update map (entryOfWords map.size number place id text) add

/-- **Reads an index map.** -/
def read (source : Source) : Except Fault Renumbering :=
  (source.read visit empty).outcome

end AxiomPinpointing.Renumbering
