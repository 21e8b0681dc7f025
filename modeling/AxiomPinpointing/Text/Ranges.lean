/-!
# Sets of characters given by ranges

Character properties are published as lists of closed ranges of code points, and the tables of
this library keep that form.

* `inRanges` — membership in such a table.
-/

namespace AxiomPinpointing.Text

/-- A table of closed ranges of code points. -/
abbrev Ranges := List (Nat × Nat)

/-- `inRanges table c` holds when some range of the table contains the code point of `c`. -/
def inRanges (table : Ranges) (c : Char) : Bool :=
  table.any fun range => range.1 ≤ c.toNat && c.toNat ≤ range.2

end AxiomPinpointing.Text
