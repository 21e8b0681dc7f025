import AxiomPinpointing.Artifacts
import AxiomPinpointing.CommandLine.Request
import AxiomPinpointing.Encoding
import AxiomPinpointing.Renumbering.Reader

/-!
# What the program answers

Every request has a script, which ends in an answer: what is printed, and the exit code.  The exit
code tells whose mistake a failure is: 2 if the data are at fault, and 1 if a file could not be
opened, created or written, or the arguments make no command.

All files that a command reads are opened before any of them is read.  Nothing is written, and
nothing goes to standard output, before it is known that there is no fault.

* `Answer` — output, errors, exit code.
* `Decompressor` — how compressed files are read, which is left open.
* `EncodeCommand.script`, `ExtractCommand.script`, `LookUpCommand.script` — the commands.
* `Request.script` — any request.
-/

namespace AxiomPinpointing

structure Answer where
  exit : UInt32
  output : String := ""
  errors : String := ""
deriving DecidableEq

namespace Answer

/-- A line of complaint, to be recognised as a comment where output is mixed. -/
def complaint (text : String) : String :=
  s!"c {text}\n"

def fileComplaint (path reason : String) : String :=
  complaint s!"{Text.quote path}: {reason}"

/-- The file that a command needs cannot be had. -/
def refused (path : String) (refusal : Refusal) : Answer :=
  { exit := 1, errors := fileComplaint path refusal.systemMessage }

/-- A fault of the data, or of writing artifacts. -/
def faulty : Fault → Answer
  | .unwritable path refusal => { exit := 1, errors := fileComplaint path refusal.message }
  | fault => { exit := 2, errors := complaint fault.report }

end Answer

/-! ## Opening files -/

/-- Holds of the files that have to be decompressed to be read. -/
def isCompressed (path : String) : Bool :=
  Path.extension? path = some "xz"

/-- A way to decompress: the stream that is read in place of the one in the file. -/
abbrev Decompressor := Source → Source

/-- No way at all: a compressed file can be opened, but not read. -/
def Decompressor.unsupported : Decompressor := fun _ => Source.unreadable

/-- Opens a file, and goes on if there is one. -/
def withSource (decompress : Decompressor) (path : String) (next : Source → Script Answer) :
    Script Answer :=
  .openFile path fun
    | .error refusal => .done (Answer.refused path refusal)
    | .ok source => next (if isCompressed path then decompress source else source)

/-! ## The commands -/

/-- Writes an encoding where it was asked for; the warnings are printed in any case. -/
def Encoding.deliver (encoding : Encoding) (output : Option String) : Script Answer :=
  let warnings :=
    String.join (encoding.warnings.map fun w => Answer.complaint s!"warning: {w.message}")
  match output with
  | none => .done { exit := 0, output := encoding.formula.text, errors := warnings }
  | some path =>
    .create path encoding.formula.text fun
      | .ok () => .done { exit := 0, errors := warnings }
      | .error refusal =>
        .done { exit := 1, errors := warnings ++ Answer.fileComplaint path refusal.systemMessage }

def EncodeCommand.script (command : EncodeCommand) (decompress : Decompressor) : Script Answer :=
  withSource decompress command.clauses fun clauses =>
    withSource decompress command.assumptions fun assumptions =>
      match (Encoding.ofSources command.settings clauses assumptions command.query).outcome with
      | .error fault => .done (Answer.faulty fault)
      | .ok encoding => encoding.deliver command.output

def ExtractCommand.script (command : ExtractCommand) (decompress : Decompressor) : Script Answer :=
  withSource decompress command.gci fun gci =>
    withSource decompress command.ri fun ri =>
      withSource decompress command.moduleFile fun moduleSource =>
        match (Extraction.ofSources command.settings gci ri moduleSource).outcome with
        | .error fault => .done (Answer.faulty fault)
        | .ok extraction => do
          match (← extraction.write command.directory command.name).outcome with
          | .error fault => pure (Answer.faulty fault)
          | .ok _ => pure { exit := 0 }

/-- The number that a value stands for, in the direction asked for. -/
def LookUpCommand.lookUp (command : LookUpCommand) (map : Renumbering) (value : UInt64) :
    Except Fault String :=
  if command.reverse then (map.placeOf ⟨value⟩).map toString
  else (map.idAt value.toNat).map toString

/-- The lines that answer all values; if one of them has no answer, there are none. -/
def LookUpCommand.lines (command : LookUpCommand) (map : Renumbering) :
    Except Fault (List String) :=
  command.values.mapM fun value =>
    (command.lookUp map value).map fun found => s!"{value.toNat} {found}\n"

def LookUpCommand.script (command : LookUpCommand) (decompress : Decompressor) : Script Answer :=
  withSource decompress command.map fun source =>
    match Renumbering.read source >>= command.lines with
    | .error fault => .done (Answer.faulty fault)
    | .ok lines => .done { exit := 0, output := String.join lines }

/-! ## All requests -/

/-- The name and version of the program. -/
def versionText : String := "pinpoint 0.1.0\n"

def usageText : String :=
  "Usage: pinpoint encode [OPTIONS] <CNF> <ASSUMPTIONS> <QUERY>\n" ++
  "       pinpoint extract [OPTIONS] <GCI> <RI> <MODULE> <NAME> <OUT_DIR>\n" ++
  "       pinpoint translate [OPTIONS] --map <PATH> <VALUES>...\n"

/-- **What is done about a request.** -/
def Request.script (request : Request) (decompress : Decompressor := .unsupported) :
    Script Answer :=
  match request with
  | encode command => command.script decompress
  | extract command => command.script decompress
  | lookUp command => command.script decompress
  | version => .done { exit := 0, output := versionText }
  | help => .done { exit := 0, output := usageText }
  | misuse => .done { exit := 1, errors := usageText }

end AxiomPinpointing
