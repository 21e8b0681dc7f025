import AxiomPinpointing.Run
import AxiomPinpointing.Text.Utf8

/-!
# Reading a source line by line

A **source** is a stream of bytes that ends, or breaks off.  All readers take it apart in the same
way: a line runs up to its newline, and belongs to the source only once it has been seen to its end
and found to be text.  What a reader does with a line is a function of the line's number, its text
and the reader's state, and that function also says whether to go on.

* `Source.lines` — the lines of a source; at most one of them, the last, can be where it broke off.
* `Step` — what a reader decides after a line.
* `Source.read` — a reader, run over the lines from the first.  Lines after the one at which it
  stops do not matter: they may be no text, or break off.
* `Reading` — the state at the end, and the fault that ended the reading, if one did.
-/

namespace AxiomPinpointing

/-! ## Sources and their lines -/

/-- How a stream of bytes ends. -/
inductive Ending where
  /-- All bytes were delivered. -/
  | complete
  /-- Reading any further fails. -/
  | broken
deriving DecidableEq

/-- A stream of bytes. -/
structure Source where
  /-- The bytes it delivers. -/
  bytes : List UInt8
  /-- What happens after the last of them. -/
  ending : Ending := .complete
deriving DecidableEq

/-- A line of a source, with its newline if it has one. -/
inductive Line where
  /-- A line of text. -/
  | text (content : String)
  /-- A line that is no text, or in which the source broke off. -/
  | unreadable
deriving DecidableEq

/-- The byte that ends a line. -/
def newline : UInt8 := 0x0A

/-- The line that some bytes make. -/
def Line.ofBytes (bytes : List UInt8) : Line :=
  match Text.decodeUtf8? bytes with
  | some content => .text content
  | none => .unreadable

namespace Source

/-- The source that holds a text. -/
def ofText (text : String) : Source := ⟨Text.encodeUtf8 text, .complete⟩

/-- The source of which nothing can be read. -/
def unreadable : Source := ⟨[], .broken⟩

/-- The pieces between the newlines; there is always a last one, possibly empty. -/
def pieces (source : Source) : List (List UInt8) :=
  source.bytes.splitOnP (· == newline)

/-- What follows the last newline is a line of its own if there is anything, and no line otherwise.
If the source breaks off here, the line cannot be read, whatever was seen of it. -/
def lastLine (ending : Ending) (piece : List UInt8) : List Line :=
  match ending with
  | .broken => [.unreadable]
  | .complete => if piece.isEmpty then [] else [.ofBytes piece]

/-- **The lines of a source.** -/
def lines (source : Source) : List Line :=
  source.pieces.dropLast.map (fun piece => .ofBytes (piece ++ [newline]))
    ++ lastLine source.ending (source.pieces.getLastD [])

end Source

/-! ## Readers -/

/-- What a reader decides after a line, with the state it leaves. -/
inductive Step (σ : Type) where
  /-- Go on with the next line. -/
  | next (state : σ)
  /-- Leave the rest of the source unread. -/
  | stop (state : σ)
  /-- Give up. -/
  | fail (fault : Fault) (state : σ)

/-- The end of a reading. -/
structure Reading (σ : Type) where
  /-- The state that the last line read left. -/
  state : σ
  /-- The fault that ended the reading. -/
  fault : Option Fault

variable {σ : Type}

/-- The state that was reached, unless there was a fault. -/
def Reading.outcome (reading : Reading σ) : Except Fault σ :=
  match reading.fault with
  | some fault => .error fault
  | none => .ok reading.state

/-- Changes the state by what a line holds.  If the line is at fault, the state stays as it was. -/
def Step.update {α : Type} (state : σ) (content : Except Fault α) (change : σ → α → σ) : Step σ :=
  match content with
  | .ok a => .next (change state a)
  | .error fault => .fail fault state

/-- Runs a reader over lines, the first of which has the given number. -/
def visitLines (visit : Nat → String → σ → Step σ) : Nat → σ → List Line → Reading σ
  | _, state, [] => ⟨state, none⟩
  | number, state, .unreadable :: _ => ⟨state, some (.unreadableLine number)⟩
  | number, state, .text content :: rest =>
    match visit number content state with
    | .next state' => visitLines visit (number + 1) state' rest
    | .stop state' => ⟨state', none⟩
    | .fail fault state' => ⟨state', some fault⟩

/-- **Runs a reader over a source.**  Lines are counted from 1. -/
def Source.read (source : Source) (visit : Nat → String → σ → Step σ) (start : σ) : Reading σ :=
  visitLines visit 1 start source.lines

end AxiomPinpointing
