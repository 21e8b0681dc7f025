import AxiomPinpointing.Text.Unprintable

/-!
# Quoted text

Messages show words and paths between quotation marks, so that their ends can be seen and odd
characters in them do no harm.

* `escape` — how one character is shown.
* `quote` — a whole text: each character in turn, between quotation marks.
-/

namespace AxiomPinpointing.Text

/-- A character by its number, in hexadecimal between braces. -/
def escapeNumber (c : Char) : List Char :=
  "\\u\x7b".toList ++ Nat.toDigits 16 c.toNat ++ ['\x7d']

/-- **How a character is shown.**  Quotation marks and backslashes take a backslash; four controls
have a letter (or digit) of their own; what cannot be printed is shown by its number. -/
def escape : Char → List Char
  | '"' => ['\\', '"']
  | '\\' => ['\\', '\\']
  | '\t' => ['\\', 't']
  | '\n' => ['\\', 'n']
  | '\r' => ['\\', 'r']
  | '\x00' => ['\\', '0']
  | c => if isUnprintable c then escapeNumber c else [c]

def quote (text : String) : String :=
  String.ofList ('"' :: text.toList.flatMap escape ++ ['"'])

end AxiomPinpointing.Text
