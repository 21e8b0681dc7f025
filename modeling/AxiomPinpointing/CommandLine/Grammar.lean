/-!
# The grammar of a command

The arguments of a command are options and positional arguments, freely mixed and read from left to
right.  A grammar says what each of them does to a **draft** of the command; whatever a draft does
not accept — a second value for the same option, a positional argument too many, a value of the
wrong form — is a misuse.

* Options are `--name` or, joined in clusters, `-x`.  The value of an option is its next argument,
  or follows at once: `--name=value`, `-xvalue`, `-x=value`.
* An argument that begins with a hyphen is an option, unless it is a hyphen and nothing else,
  follows the argument `--`, or looks like a negative number where a number may come next.
* An option that waits for its value takes no option for it, except if any text at all may be its
  value.

`Grammar.read` stops at the first thing that is decisive, so that asking for help to the left of a
misuse gets help, and to the right of one does not.
-/

namespace AxiomPinpointing

inductive OptionEffect (α : Type) where
  /-- It takes no value. -/
  | flag (set : α → Option α)
  /-- It takes a value; whether that may look like an option. -/
  | value (anything : Bool) (set : String → α → Option α)
  /-- It asks for help. -/
  | help

structure Grammar (α : Type) where
  /-- The options with long names. -/
  long : String → Option (OptionEffect α)
  /-- The options with short names. -/
  short : Char → Option (OptionEffect α)
  /-- What the next positional argument does to a draft. -/
  positional : String → α → Option α
  /-- Whether the next positional argument may be a negative number. -/
  numberNext : α → Bool

/-- Why reading arguments ends before the last of them. -/
inductive Halt where
  /-- Help was asked for. -/
  | help
  /-- The arguments make no command. -/
  | misuse
deriving DecidableEq

/-- How far the arguments have been read. -/
structure Progress (α : Type) where
  /-- The command so far. -/
  draft : α
  /-- The option that waits for its value: whether it takes anything, and what it does. -/
  waiting : Option (Bool × (String → α → Option α)) := none
  /-- Whether only positional arguments may follow. -/
  closed : Bool := false

/-! ## The form of an argument -/

/-- Holds of digits with an optional fraction and an optional exponent. -/
def looksLikeNumber (cs : List Char) : Bool :=
  let (whole, rest) := cs.span Char.isDigit
  let rest :=
    match rest with
    | '.' :: fraction => fraction.dropWhile Char.isDigit
    | _ => rest
  !whole.isEmpty &&
    match rest with
    | [] => true
    | 'e' :: exponent | 'E' :: exponent => !exponent.isEmpty && exponent.all Char.isDigit
    | _ => false

/-- The name and the attached value of an option in its long form. -/
def longForm? (argument : String) : Option (String × Option String) :=
  match argument.toList with
  | '-' :: '-' :: cs =>
    match cs.span (· ≠ '=') with
    | (name, []) => some (String.ofList name, none)
    | (name, _ :: value) => some (String.ofList name, some (String.ofList value))
  | _ => none

namespace Grammar

variable {α : Type} (grammar : Grammar α)

/-- Holds if an argument is a negative number, and one may come next. -/
def isNumber (draft : α) (argument : String) : Bool :=
  grammar.numberNext draft &&
    match argument.toList with
    | '-' :: cs => looksLikeNumber cs
    | _ => false

/-- The names of a cluster of options in their short form. -/
def shortForm? (draft : α) (argument : String) : Option (List Char) :=
  match argument.toList with
  | '-' :: c :: cs => if grammar.isNumber draft argument then none else some (c :: cs)
  | _ => none

/-- Holds if an argument has the form of an option. -/
def looksLikeOption (draft : α) (argument : String) : Bool :=
  (longForm? argument).isSome || (grammar.shortForm? draft argument).isSome

/-! ## Reading -/

/-- Goes on with a draft, unless there is none. -/
def goOn : Option α → Except Halt (Progress α)
  | some draft => .ok { draft }
  | none => .error .misuse

def readLong (draft : α) (name : String) (attached : Option String) :
    Except Halt (Progress α) :=
  match grammar.long name, attached with
  | some (.flag set), none => goOn (set draft)
  | some .help, none => .error .help
  | some (.value anything set), none => .ok { draft, waiting := some (anything, set) }
  | some (.value _ set), some value => goOn (set value draft)
  | _, _ => .error .misuse

/-- Reads a cluster of options in their short form. -/
def readShort : α → List Char → Except Halt (Progress α)
  | draft, [] => goOn (some draft)
  | draft, c :: cs =>
    match grammar.short c with
    | none => .error .misuse
    | some .help => .error .help
    | some (.flag set) =>
      match set draft with
      | some draft => readShort draft cs
      | none => .error .misuse
    | some (.value anything set) =>
      match cs with
      | [] => .ok { draft, waiting := some (anything, set) }
      | '=' :: value => goOn (set (String.ofList value) draft)
      | value => goOn (set (String.ofList value) draft)

/-- Reads an argument that no option waits for. -/
def readFresh (draft : α) (argument : String) : Except Halt (Progress α) :=
  if argument = "--" then .ok { draft, closed := true }
  else
    match longForm? argument, grammar.shortForm? draft argument with
    | some (name, attached), _ => grammar.readLong draft name attached
    | none, some cluster => grammar.readShort draft cluster
    | none, none => goOn (grammar.positional argument draft)

def readArgument (progress : Progress α) (argument : String) : Except Halt (Progress α) :=
  if progress.closed then
    match grammar.positional argument progress.draft with
    | some draft => .ok { progress with draft }
    | none => .error .misuse
  else
    match progress.waiting with
    | some (anything, set) =>
      if !anything && grammar.looksLikeOption progress.draft argument then .error .misuse
      else goOn (set argument progress.draft)
    | none => grammar.readFresh progress.draft argument

/-- **Reads the arguments of a command.** -/
def read (start : α) (arguments : List String) : Except Halt α := do
  let progress ← arguments.foldlM grammar.readArgument { draft := start }
  if progress.waiting.isSome then .error .misuse else .ok progress.draft

end Grammar

end AxiomPinpointing
