import AxiomPinpointing.CommandLine.Grammar
import AxiomPinpointing.Literal
import AxiomPinpointing.Settings

/-!
# What can be asked on the command line

There are three commands.  `encode` encodes a query, `extract` extracts a module, and `translate`
looks numbers up in an index map.  Each has a grammar of its own over a draft of its arguments, and
a draft makes a command if nothing is missing from it.

* `EncodeCommand`, `ExtractCommand`, `LookUpCommand` — the commands.
* `Request` — a command, or one of the things to be said about the program.
* `Request.ofArguments` — what some arguments ask for.
-/

namespace AxiomPinpointing

/-- Reads the argument that names a file or directory. -/
def pathArgument? (argument : String) : Option String :=
  if argument.isEmpty then none else some argument

/-- Fills a slot that must not have been filled. -/
def fill {α : Type} (slot : Option α) (value : Option α) : Option (Option α) :=
  if slot.isSome then none else value.map some

/-! ## Encoding -/

structure EncodeCommand where
  clauses : String
  assumptions : String
  query : Literal
  settings : Settings
  /-- The file to write to; otherwise standard output. -/
  output : Option String

/-- The arguments of `encode`, as far as they are known. -/
structure EncodeDraft where
  clauses : Option String := none
  assumptions : Option String := none
  query : Option Literal := none
  layout : Option AssumptionLayout := none
  weight : Option WeightPolicy := none
  strict : Bool := false
  output : Option String := none

namespace EncodeDraft

/-- `--mode`: the layout of the assumptions. -/
def setLayout (word : String) (d : EncodeDraft) : Option EncodeDraft :=
  (fill d.layout (Keyword.ofWord? word)).map fun layout => { d with layout }

/-- `--weight`: the policy for the hard weight. -/
def setWeight (word : String) (d : EncodeDraft) : Option EncodeDraft :=
  (fill d.weight (Keyword.ofWord? word)).map fun weight => { d with weight }

/-- `--output`: the file to write to. -/
def setOutput (path : String) (d : EncodeDraft) : Option EncodeDraft :=
  (fill d.output (pathArgument? path)).map fun output => { d with output }

/-- `--strict`: warnings are faults. -/
def setStrict (d : EncodeDraft) : Option EncodeDraft :=
  if d.strict then none else some { d with strict := true }

/-- The positional arguments: two files, and the query. -/
def setNext (argument : String) (d : EncodeDraft) : Option EncodeDraft :=
  match d.clauses, d.assumptions, d.query with
  | none, _, _ => (pathArgument? argument).map fun path => { d with clauses := some path }
  | some _, none, _ => (pathArgument? argument).map fun path => { d with assumptions := some path }
  | some _, some _, none =>
    (Text.signed64? argument).map fun value => { d with query := some ⟨value⟩ }
  | some _, some _, some _ => none

def grammar : Grammar EncodeDraft where
  long
    | "mode" => some (.value false setLayout)
    | "weight" => some (.value false setWeight)
    | "output" => some (.value false setOutput)
    | "strict" => some (.flag setStrict)
    | "help" => some .help
    | _ => none
  short
    | 'm' => some (.value false setLayout)
    | 'w' => some (.value false setWeight)
    | 'o' => some (.value false setOutput)
    | 'h' => some .help
    | _ => none
  positional := setNext
  numberNext d := d.clauses.isSome && d.assumptions.isSome && d.query.isNone

/-- The settings that the options ask for. -/
def settings (d : EncodeDraft) : Settings :=
  let base := Settings.default
  { base with
    layout := { base.layout with value := d.layout.getD base.layout.value }
    weight := { base.weight with value := d.weight.getD base.weight.value }
    strict := { base.strict with value := d.strict } }

/-- The command, if nothing is missing. -/
def command? (d : EncodeDraft) : Option EncodeCommand := do
  let clauses ← d.clauses
  let assumptions ← d.assumptions
  let query ← d.query
  some ⟨clauses, assumptions, query, d.settings, d.output⟩

end EncodeDraft

/-! ## Extracting -/

structure ExtractCommand where
  gci : String
  ri : String
  moduleFile : String
  name : String
  directory : String
  settings : Settings

/-- The arguments of `extract`, as far as they are known. -/
structure ExtractDraft where
  gci : Option String := none
  ri : Option String := none
  moduleFile : Option String := none
  name : Option String := none
  directory : Option String := none
  pairs : Option PairStrategy := none
  marker : Option String := none

namespace ExtractDraft

/-- `--collapse`: when two definitions make an equivalence. -/
def setPairs (word : String) (d : ExtractDraft) : Option ExtractDraft :=
  (fill d.pairs (Keyword.ofWord? word)).map fun pairs => { d with pairs }

/-- `--marker`: the relation that equivalences are written with. -/
def setMarker (marker : String) (d : ExtractDraft) : Option ExtractDraft :=
  (fill d.marker (some marker)).map fun marker => { d with marker }

/-- The positional arguments: three files, a name, which may be empty, and a directory. -/
def setNext (argument : String) (d : ExtractDraft) : Option ExtractDraft :=
  match d.gci, d.ri, d.moduleFile, d.name, d.directory with
  | none, _, _, _, _ => (pathArgument? argument).map fun path => { d with gci := some path }
  | some _, none, _, _, _ => (pathArgument? argument).map fun path => { d with ri := some path }
  | some _, some _, none, _, _ =>
    (pathArgument? argument).map fun path => { d with moduleFile := some path }
  | some _, some _, some _, none, _ => some { d with name := some argument }
  | some _, some _, some _, some _, none =>
    (pathArgument? argument).map fun path => { d with directory := some path }
  | some _, some _, some _, some _, some _ => none

def grammar : Grammar ExtractDraft where
  long
    | "collapse" => some (.value false setPairs)
    | "marker" => some (.value true setMarker)
    | "help" => some .help
    | _ => none
  short
    | 'h' => some .help
    | _ => none
  positional := setNext
  numberNext _ := false

/-- The settings that the options ask for. -/
def settings (d : ExtractDraft) : Settings :=
  let base := Settings.default
  { base with
    pairs := { base.pairs with value := d.pairs.getD base.pairs.value }
    marker := d.marker.getD base.marker }

/-- The command, if nothing is missing. -/
def command? (d : ExtractDraft) : Option ExtractCommand := do
  let gci ← d.gci
  let ri ← d.ri
  let moduleFile ← d.moduleFile
  let name ← d.name
  let directory ← d.directory
  some ⟨gci, ri, moduleFile, name, directory, d.settings⟩

end ExtractDraft

/-! ## Looking up -/

structure LookUpCommand where
  map : String
  /-- Whether to look up places by numbers, and not numbers by places. -/
  reverse : Bool
  /-- What to look up; there is at least one. -/
  values : List UInt64

/-- The arguments of `translate`, as far as they are known. -/
structure LookUpDraft where
  map : Option String := none
  reverse : Bool := false
  values : Array UInt64 := #[]

namespace LookUpDraft

/-- `--map`: the index map. -/
def setMap (path : String) (d : LookUpDraft) : Option LookUpDraft :=
  (fill d.map (pathArgument? path)).map fun map => { d with map }

/-- `--reverse`: look up places. -/
def setReverse (d : LookUpDraft) : Option LookUpDraft :=
  if d.reverse then none else some { d with reverse := true }

/-- The positional arguments: any number of values. -/
def setNext (argument : String) (d : LookUpDraft) : Option LookUpDraft :=
  (Text.unsigned64? argument).map fun value => { d with values := d.values.push value }

def grammar : Grammar LookUpDraft where
  long
    | "map" => some (.value false setMap)
    | "reverse" => some (.flag setReverse)
    | "help" => some .help
    | _ => none
  short
    | 'r' => some (.flag setReverse)
    | 'h' => some .help
    | _ => none
  positional := setNext
  numberNext _ := false

/-- The command, if nothing is missing. -/
def command? (d : LookUpDraft) : Option LookUpCommand := do
  let map ← d.map
  if d.values.isEmpty then none else some ⟨map, d.reverse, d.values.toList⟩

end LookUpDraft

/-! ## Requests -/

inductive Request where
  | encode (command : EncodeCommand)
  | extract (command : ExtractCommand)
  | lookUp (command : LookUpCommand)
  | version
  | help
  | misuse

namespace Request

/-- The request that the arguments of a command make. -/
def ofDraft {α β : Type} (grammar : Grammar α) (start : α) (command? : α → Option β)
    (request : β → Request) (arguments : List String) : Request :=
  match grammar.read start arguments with
  | .error .help => .help
  | .error .misuse => .misuse
  | .ok draft => (command? draft).elim .misuse request

/-- The words that help can be asked on. -/
def topics : List String := ["encode", "extract", "translate", "help"]

/-- The request that an option in front of any command makes; what follows it does not matter. -/
def ofLeadingOption (argument : String) : Request :=
  if argument = "--version" then .version
  else if argument = "--help" then .help
  else
    match argument.toList with
    | '-' :: 'V' :: _ => .version
    | '-' :: 'h' :: _ => .help
    | _ => .misuse

/-- **What some arguments ask for.** -/
def ofArguments : List String → Request
  | "encode" :: rest => ofDraft EncodeDraft.grammar {} EncodeDraft.command? .encode rest
  | "extract" :: rest => ofDraft ExtractDraft.grammar {} ExtractDraft.command? .extract rest
  | "translate" :: rest =>
    ofDraft LookUpDraft.grammar {} LookUpDraft.command? .lookUp rest
  | ["help"] => .help
  | "help" :: topic :: rest => if rest.isEmpty && topics.contains topic then .help else .misuse
  | argument :: _ => ofLeadingOption argument
  | [] => .misuse

end Request

end AxiomPinpointing
