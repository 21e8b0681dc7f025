import AxiomPinpointing.Text.Ranges

/-!
# Blank characters

Every reader of this library separates words by blanks, and a blank is any character with the
Unicode property `White_Space`: the ASCII blanks, but also the no-break space, the line and
paragraph separators and the wide spaces.  `Char.isWhitespace` of the core library knows the
ASCII ones only, and not even all of them.

* `isBlank` — the property.
* `isBlank_of_isWhitespace` — the core library's blanks are blanks here.
-/

namespace AxiomPinpointing.Text

/-- The code points with the property `White_Space`. -/
def whiteSpace : Ranges :=
  [(0x09, 0x0D), (0x20, 0x20), (0x85, 0x85), (0xA0, 0xA0), (0x1680, 0x1680), (0x2000, 0x200A),
    (0x2028, 0x2029), (0x202F, 0x202F), (0x205F, 0x205F), (0x3000, 0x3000)]

/-- A character that separates words. -/
def isBlank (c : Char) : Bool :=
  inRanges whiteSpace c

theorem isBlank_of_isWhitespace {c : Char} (h : c.isWhitespace = true) : isBlank c = true := by
  simp only [Char.isWhitespace, Bool.or_eq_true, decide_eq_true_eq] at h
  rcases h with ((rfl | rfl) | rfl) | rfl <;> rfl

end AxiomPinpointing.Text
