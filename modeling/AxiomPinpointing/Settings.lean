/-!
# Settings

What a user may choose.  Four of the choices are between keywords or flags, and each of them is a
`Setting`: a value within bounds that the surrounding program may narrow.  Assigning a value
outside the bounds is refused, and changes nothing; narrowing the bounds, on the other hand, leaves
a value that is outside of them where it is.  The fifth choice, the marker of equivalences, is any
text at all.

* `Keyword` — types whose values have names.
* `AssumptionLayout`, `WeightPolicy`, `PairStrategy` — the choices.
* `Setting` — a bounded choice, and `Setting.assign`.
* `Settings` — all choices together, with their defaults.
-/

namespace AxiomPinpointing

/-! ## Choices that have names -/

/-- A type of choices that users name by a word. -/
class Keyword (α : Type) where
  /-- All choices, from the least. -/
  all : List α
  /-- The word for a choice. -/
  word : α → String

/-- The choice that a word names, spelled exactly. -/
def Keyword.ofWord? {α : Type} [Keyword α] (word : String) : Option α :=
  (Keyword.all (α := α)).find? fun choice => Keyword.word choice = word

/-- How assumptions are laid out.  The names are those of the reductions that the assumptions come
from: the unoptimised one, and the one to the cone of influence. -/
inductive AssumptionLayout where
  /-- One assumption per line, as the first word of it. -/
  | column
  /-- All assumptions on one line, which ends with 0. -/
  | row
deriving DecidableEq, Ord

instance : Keyword AssumptionLayout where
  all := [.column, .row]
  word
    | .column => "no-opt"
    | .row => "coi"

/-- How the weight of hard clauses is chosen. -/
inductive WeightPolicy where
  /-- One more than the greatest variable. -/
  | topVar
  /-- One more than the greatest variable or the number of assumptions, whichever is greater. -/
  | dominant
deriving DecidableEq, Ord

instance : Keyword WeightPolicy where
  all := [.topVar, .dominant]
  word
    | .topVar => "top-var"
    | .dominant => "dominant"

/-- When two definitions under one number make an equivalence. -/
inductive PairStrategy where
  /-- Always. -/
  | count
  /-- If the second is the converse of the first. -/
  | converse
deriving DecidableEq, Ord

instance : Keyword PairStrategy where
  all := [.count, .converse]
  word
    | .count => "count"
    | .converse => "converse"

/-! ## Bounded choices -/

/-- A choice within bounds. -/
structure Setting (α : Type) where
  /-- The name of the setting. -/
  name : String
  /-- The present choice. -/
  value : α
  /-- The least choice allowed. -/
  least : α
  /-- The greatest choice allowed. -/
  greatest : α
deriving DecidableEq

namespace Setting

variable {α : Type} [Ord α]

/-- Holds of the choices within the bounds. -/
def allows (setting : Setting α) (choice : α) : Bool :=
  (compare setting.least choice).isLE && (compare choice setting.greatest).isLE

/-- Makes a choice, unless it is out of bounds. -/
def assign? (setting : Setting α) (choice : α) : Option (Setting α) :=
  if setting.allows choice then some { setting with value := choice } else none

end Setting

/-! ## All choices together -/

/-- The choices of a user. -/
structure Settings where
  /-- How assumptions are laid out. -/
  layout : Setting AssumptionLayout := ⟨"mode", .column, .column, .row⟩
  /-- How the weight of hard clauses is chosen. -/
  weight : Setting WeightPolicy := ⟨"weight", .dominant, .topVar, .dominant⟩
  /-- Whether a warning is a fault. -/
  strict : Setting Bool := ⟨"strict", false, false, true⟩
  /-- When two definitions make an equivalence. -/
  pairs : Setting PairStrategy := ⟨"collapse", .count, .count, .converse⟩
  /-- The relation that equivalences are written with. -/
  marker : String := "(equivalent"
deriving DecidableEq

namespace Settings

/-- The choices of a user who makes none. -/
def default : Settings := {}

end Settings

end AxiomPinpointing
