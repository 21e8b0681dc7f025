import AxiomPinpointing.Text.Blank

/-!
# Words of a line

All the formats read here are line based, and a line is first of all a sequence of **words**: the
maximal runs of characters that are not blank.  Some readers need more than the words, because they
keep the rest of a line as it stands or hand it on; for them there are `trim`, `takeWord` and
`behindWord`.

* `words` — the words of a text, in order.
* `trim` — a text without the blanks at its two ends.
* `takeWord` — the first word, and what follows it from the next word on.
* `behindWord` — what follows the first word of a line.
-/

namespace AxiomPinpointing.Text

/-! ## Words -/

/-- The words of a text: cut it at every blank, and forget the empty pieces. -/
def words (text : String) : List String :=
  ((text.toList.splitOnP isBlank).filter (!·.isEmpty)).map String.ofList

/-- The first character of the first word. -/
def firstLetter? (text : String) : Option Char :=
  text.toList.find? (!isBlank ·)

def isBlankLine (text : String) : Bool :=
  text.toList.all isBlank

/-! ## The text between the words

Here texts are lists of characters, as the functions below are used one after the other on the
same line. -/

def trimLeft (cs : List Char) : List Char :=
  cs.dropWhile isBlank

def trim (cs : List Char) : List Char :=
  (trimLeft (trimLeft cs).reverse).reverse

/-- Takes the first word off a text that starts with one; the rest starts at the next word. -/
def takeWord (cs : List Char) : List Char × List Char :=
  (cs.takeWhile (!isBlank ·), trimLeft (cs.dropWhile (!isBlank ·)))

/-- What comes behind the first blank, once the blanks in front have been dropped. -/
def behindWord (line : String) : String :=
  String.ofList ((trimLeft line.toList).dropWhile (!isBlank ·)).tail

end AxiomPinpointing.Text
