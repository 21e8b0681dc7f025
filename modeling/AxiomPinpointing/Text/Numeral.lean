/-!
# Numerals of 64 bits

Numbers are written in decimal, and every number of the formats fits 64 bits: signed for literals,
unsigned for weights, variables, counts and places.  A numeral that does not fit is no numeral at
all.  Two notions of numeral are in use.

* `unsigned64?`, `signed64?` — **lenient**: leading zeros are allowed, and so is a plus sign (or,
  for signed numbers, a minus sign), as long as a digit follows.
* `canonical64?` — **strict**: the one spelling that printing gives, so that numbers may be compared
  by comparing their text.

Digits are the ten ASCII digits, whatever else Unicode counts as one.
-/

namespace AxiomPinpointing.Text

/-- The value of a non-empty run of decimal digits. -/
def digits? (cs : List Char) : Option Nat :=
  if !cs.isEmpty && cs.all Char.isDigit then some (Nat.ofDigitChars 10 cs 0) else none

/-- A natural number as an unsigned word of 64 bits, if it fits. -/
def fit64? (n : Nat) : Option UInt64 :=
  if n < UInt64.size then some (UInt64.ofNat n) else none

/-- An integer as a signed word of 64 bits, if it fits. -/
def fitSigned64? (n : Int) : Option Int64 :=
  if Int64.minValue.toInt ≤ n ∧ n ≤ Int64.maxValue.toInt then some (Int64.ofInt n) else none

/-- Reads an unsigned number; a plus sign may come first. -/
def unsigned64? (word : String) : Option UInt64 :=
  match word.toList with
  | '+' :: cs => digits? cs >>= fit64?
  | cs => digits? cs >>= fit64?

/-- Reads a signed number; a plus or a minus sign may come first. -/
def signed64? (word : String) : Option Int64 :=
  match word.toList with
  | '+' :: cs => digits? cs >>= fun n => fitSigned64? n
  | '-' :: cs => digits? cs >>= fun n => fitSigned64? (-n)
  | cs => digits? cs >>= fun n => fitSigned64? n

/-- Reads an unsigned number in its one canonical spelling: digits only, and no zero in front of
another digit. -/
def canonical64? (word : String) : Option UInt64 :=
  match word.toList with
  | '0' :: _ :: _ => none
  | cs => digits? cs >>= fit64?

end AxiomPinpointing.Text
