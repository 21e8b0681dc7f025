import AxiomPinpointing.CommandLine.Answer
import AxiomPinpointing.Proofs.DataFaults
import AxiomPinpointing.Proofs.Writing

/-!
# What commands leave behind

A command opens its inputs, lets the library make something of what they hold, and delivers that.
Any of the three can fail, and the exit code tells whose mistake it was.  As nothing is written
before the library is done, a command that fails leaves no trace, except that an extraction whose
artifacts cannot be put in place takes away the files that are in their places.

* `FileTree.input` — what a command reads at a path.
* `CarriedOut` — the three stages of a command, put together from the inputs (`CarriedOut.withSource`)
  and what is made of them (`CarriedOut.of_outcome`).
* `Traceless` — what exit codes mean, and what is left, of output and of the tree.
* `failed_commands_leave_no_trace` — this holds of all three commands.
-/

namespace AxiomPinpointing

/-! ## Inputs -/

namespace FileTree

/-- Holds if there is something at a path that can be opened. -/
def CanOpen (tree : FileTree) (path : String) : Prop :=
  ∃ source, tree.openFile path = .ok source

/-- The stream that a command reads at a path. -/
def input (tree : FileTree) (decompress : Decompressor) (path : String) : Except Refusal Source :=
  (tree.openFile path).map fun source => if isCompressed path then decompress source else source

lemma canOpen_iff {tree : FileTree} (decompress : Decompressor) {path : String} :
    tree.CanOpen path ↔ ∃ source, tree.input decompress path = .ok source := by
  rw [CanOpen, input]
  cases tree.openFile path <;> simp [Except.map]

end FileTree

lemma run_withSource (decompress : Decompressor) (path : String) (next : Source → Script Answer)
    (tree : FileTree) :
    (withSource decompress path next).run tree = match tree.input decompress path with
      | .error refusal => (Answer.refused path refusal, tree)
      | .ok source => (next source).run tree := by
  rw [withSource, Script.run, FileTree.input]
  cases tree.openFile path <;> rfl

/-! ## The stages of a command -/

section Stages

variable {α : Type} {inputs : List String} {made : Except Refusal (Except Fault α)}
  {deliver : α → Script Answer} {tree : FileTree} {result : Answer × FileTree}

/-- Holds if a command that reads certain inputs has come to a result in three stages: it is refused
if an input cannot be opened, what was made of the inputs may be a fault of the data, and otherwise
it is delivered. -/
structure CarriedOut (inputs : List String) (made : Except Refusal (Except Fault α))
    (deliver : α → Script Answer) (tree : FileTree) (result : Answer × FileTree) : Prop where
  opened : (∃ outcome, made = .ok outcome) ↔ ∀ path ∈ inputs, tree.CanOpen path
  refused : ∀ refusal, made = .error refusal → ∃ path, result = (Answer.refused path refusal, tree)
  blames : ∀ outcome, made = .ok outcome → BlamesData outcome
  faulty : ∀ fault, made = .ok (.error fault) → result = (Answer.faulty fault, tree)
  delivered : ∀ a, made = .ok (.ok a) → result = (deliver a).run tree

/-- The last input has been read. -/
lemma CarriedOut.of_outcome {outcome : Except Fault α} (blames : BlamesData outcome)
    (faulty : ∀ fault, outcome = .error fault → result = (Answer.faulty fault, tree))
    (delivered : ∀ a, outcome = .ok a → result = (deliver a).run tree) :
    CarriedOut [] (.ok outcome) deliver tree result where
  opened := by simp
  refused := by simp
  blames := by
    rintro _ ⟨⟩
    exact blames
  faulty fault given := faulty fault (Except.ok.inj given)
  delivered a given := delivered a (Except.ok.inj given)

/-- **One more input in front**: only if it can be opened, the others are looked at. -/
lemma CarriedOut.withSource {decompress : Decompressor} {path : String}
    {next : Source → Script Answer} {made : Source → Except Refusal (Except Fault α)}
    (rest : ∀ source, CarriedOut inputs (made source) deliver tree ((next source).run tree)) :
    CarriedOut (path :: inputs) (tree.input decompress path >>= made) deliver tree
      ((AxiomPinpointing.withSource decompress path next).run tree) := by
  rw [run_withSource]
  have front : tree.CanOpen path ↔ _ := FileTree.canOpen_iff decompress
  cases found : tree.input decompress path with
  | error refusal =>
    refine ⟨?_, ?_, ?_, ?_, ?_⟩
    · simp [front, found, bind, Except.bind]
    · rintro _ ⟨⟩
      exact ⟨path, rfl⟩
    all_goals intro _ given; contradiction
  | ok source =>
    obtain ⟨opened, refused, blames, faulty, delivered⟩ := rest source
    refine ⟨?_, refused, blames, faulty, delivered⟩
    rw [List.forall_mem_cons, ← opened]
    simp [front, found, bind, Except.bind]

/-! ## What exit codes mean -/

lemma Answer.exit_faulty {fault : Fault} (data : fault.category ≠ .writeFailure) :
    (faulty fault).exit = 2 ∧ (faulty fault).output = "" := by
  rw [faulty.eq_def]
  split
  · exact absurd rfl data
  · exact ⟨rfl, rfl⟩

/-- **What the exit codes of a command mean, and what it leaves behind.** -/
structure Traceless (inputs : List String) (made : Except Refusal (Except Fault α))
    (Undelivered : α → Prop) (Withdrawn : FileTree → Prop) (Delivered : α → String → FileTree → Prop)
    (tree : FileTree) (result : Answer × FileTree) : Prop where
  /-- All inputs can be opened, and the library finds a fault in what they hold. -/
  two : result.1.exit = 2 ↔
    (∀ path ∈ inputs, tree.CanOpen path) ∧ ∃ fault, made = .ok (.error fault)
  /-- Some input cannot be opened, whatever the others hold, or delivery fails. -/
  one : result.1.exit = 1 ↔
    (∃ path ∈ inputs, ¬ tree.CanOpen path) ∨ ∃ a, made = .ok (.ok a) ∧ Undelivered a
  zero : result.1.exit = 0 ↔ ∃ a, made = .ok (.ok a) ∧ ¬ Undelivered a
  afterTwo : result.1.exit = 2 → result.1.output = "" ∧ result.2 = tree
  afterOne : result.1.exit = 1 → result.1.output = "" ∧
    ((∃ path ∈ inputs, ¬ tree.CanOpen path) → result.2 = tree) ∧
    ((∃ a, made = .ok (.ok a) ∧ Undelivered a) → Withdrawn result.2)
  afterZero : result.1.exit = 0 → ∃ a, made = .ok (.ok a) ∧ Delivered a result.1.output result.2

variable {Undelivered : α → Prop} {Withdrawn : FileTree → Prop}
  {Delivered : α → String → FileTree → Prop}

/-- Of a command it only has to be shown how delivery ends. -/
lemma CarriedOut.traceless (h : CarriedOut inputs made deliver tree result)
    (failing : ∀ a, Undelivered a → ((deliver a).run tree).1.exit = 1 ∧
      ((deliver a).run tree).1.output = "" ∧ Withdrawn ((deliver a).run tree).2)
    (succeeding : ∀ a, ¬ Undelivered a → ((deliver a).run tree).1.exit = 0 ∧
      Delivered a ((deliver a).run tree).1.output ((deliver a).run tree).2) :
    Traceless inputs made Undelivered Withdrawn Delivered tree result := by
  obtain ⟨opened, refused, blames, faulty, delivered⟩ := h
  match made with
  | .error refusal =>
    obtain ⟨path, rfl⟩ := refused refusal rfl
    have shut : ∃ path ∈ inputs, ¬ tree.CanOpen path := by
      have none := mt opened.mpr (by simp)
      push Not at none
      exact none
    constructor <;> simp [Answer.refused, shut]
  | .ok (.error fault) =>
    obtain rfl := faulty fault rfl
    have all : ∀ path ∈ inputs, tree.CanOpen path := opened.mp ⟨_, rfl⟩
    obtain ⟨exit, silent⟩ := Answer.exit_faulty (blames _ rfl fault rfl)
    have shut : ¬ ∃ path ∈ inputs, ¬ tree.CanOpen path := by simpa using all
    constructor <;> simp [exit, silent, shut]
    exact all
  | .ok (.ok a) =>
    obtain rfl := delivered a rfl
    have all : ∀ path ∈ inputs, tree.CanOpen path := opened.mp ⟨_, rfl⟩
    have shut : ¬ ∃ path ∈ inputs, ¬ tree.CanOpen path := by simpa using all
    by_cases fails : Undelivered a
    · obtain ⟨exit, silent, withdrawn⟩ := failing a fails
      constructor <;> simp [exit, silent, shut, fails, withdrawn]
    · obtain ⟨exit, done⟩ := succeeding a fails
      constructor <;> simp [exit, shut, fails, done]

end Stages

/-! ## Encoding -/

namespace EncodeCommand

variable (command : EncodeCommand) (decompress : Decompressor) (tree : FileTree)

/-- What is made of the inputs: a refusal if they cannot be opened, or else an encoding or a fault
of the library. -/
def made : Except Refusal (Except Fault Encoding) := do
  let clauses ← tree.input decompress command.clauses
  let assumptions ← tree.input decompress command.assumptions
  return (Encoding.ofSources command.settings clauses assumptions command.query).outcome

lemma carriedOut : CarriedOut [command.clauses, command.assumptions] (command.made decompress tree)
    (·.deliver command.output) tree ((command.script decompress).run tree) := by
  refine .withSource fun clauses => .withSource fun assumptions => ?_
  refine .of_outcome (Encoding.blamesData_ofSources _ _ _ _) (fun fault given => ?_)
    fun encoding given => ?_
  · rw [given]
    rfl
  · rw [given]

/-- The encoding is printed, or written to the file that was asked for.  A file that cannot be
created is the only obstacle. -/
def LeavesNoTrace (result : Answer × FileTree) : Prop :=
  Traceless [command.clauses, command.assumptions] (command.made decompress tree)
    (fun encoding => ∃ path refusal, command.output = some path ∧
      tree.create path (Text.encodeUtf8 encoding.formula.text) = .error refusal)
    (· = tree)
    (fun encoding output tree' => match command.output with
      | none => output = encoding.formula.text ∧ tree' = tree
      | some path => output = "" ∧ FileTree.ChangesOnlyAt [path] tree tree' ∧
        tree'.openFile path = .ok (.ofText encoding.formula.text))
    tree result

lemma leavesNoTrace :
    command.LeavesNoTrace decompress tree ((command.script decompress).run tree) := by
  refine (command.carriedOut decompress tree).traceless ?_ ?_
  · rintro encoding ⟨path, refusal, asked, refused⟩
    simp [Encoding.deliver, asked, Script.run, refused, Script.attempt]
  · intro encoding possible
    cases asked : command.output with
    | none => simp [Encoding.deliver, Script.run]
    | some path =>
      cases created : tree.create path (Text.encodeUtf8 encoding.formula.text) with
      | error refusal => exact absurd ⟨path, refusal, asked, created⟩ possible
      | ok tree' =>
        simp only [Encoding.deliver, Script.run, created, Script.attempt, true_and]
        exact ⟨.create created, FileTree.openFile_of_create created⟩

end EncodeCommand

/-! ## Extracting -/

namespace ExtractCommand

variable (command : ExtractCommand) (decompress : Decompressor) (tree : FileTree)

/-- The paths of what is written. -/
def artifacts : Artifacts :=
  .named command.directory command.name

/-- What is made of the three inputs, which are opened in this order. -/
def made : Except Refusal (Except Fault Extraction) := do
  let gci ← tree.input decompress command.gci
  let ri ← tree.input decompress command.ri
  let moduleSource ← tree.input decompress command.moduleFile
  return (Extraction.ofSources command.settings gci ri moduleSource).outcome

/-- Writes an extraction, and answers. -/
def deliver (extraction : Extraction) : Script Answer := do
  match (← extraction.write command.directory command.name).outcome with
  | .error fault => pure (Answer.faulty fault)
  | .ok _ => pure { exit := 0 }

lemma carriedOut : CarriedOut [command.gci, command.ri, command.moduleFile]
    (command.made decompress tree) command.deliver tree ((command.script decompress).run tree) := by
  refine .withSource fun gci => .withSource fun ri => .withSource fun moduleSource => ?_
  refine .of_outcome (Extraction.blamesData_ofSources _ _ _ _) (fun fault given => ?_)
    fun extraction given => ?_
  · rw [given]
    rfl
  · rw [given]
    rfl

/-- Both artifacts are written, and nothing is printed.  If they cannot be written, the files at
their paths, and at those of the parts, are removed. -/
def LeavesNoTrace (result : Answer × FileTree) : Prop :=
  Traceless [command.gci, command.ri, command.moduleFile] (command.made decompress tree)
    (fun extraction => ∃ fault,
      ((extraction.write command.directory command.name).run tree).1.outcome = .error fault)
    (FileTree.OnlyRemovedAt command.artifacts.paths tree)
    (fun extraction output tree' => output = "" ∧
      FileTree.ChangesOnlyAt command.artifacts.paths tree tree' ∧
      command.artifacts.InPlace extraction tree')
    tree result

lemma run_deliver (extraction : Extraction) :
    (command.deliver extraction).run tree =
      (match ((extraction.write command.directory command.name).run tree).1.outcome with
        | .error fault => Answer.faulty fault
        | .ok _ => { exit := 0 },
      ((extraction.write command.directory command.name).run tree).2) := by
  rw [deliver, Script.run_bind]
  cases ((extraction.write command.directory command.name).run tree).1.outcome <;> rfl

lemma leavesNoTrace :
    command.LeavesNoTrace decompress tree ((command.script decompress).run tree) := by
  refine (command.carriedOut decompress tree).traceless ?_ ?_
  · rintro extraction ⟨fault, held⟩
    cases steps : (command.artifacts.steps extraction).foldlM WriteStep.effect tree with
    | ok tree' =>
      rw [Extraction.run_write_of_ok steps] at held
      contradiction
    | error refusal =>
      obtain ⟨blamed, stopped, first, run⟩ := Extraction.run_write_of_error steps
      obtain ⟨changes, gone⟩ := Extraction.withdrawn_of_firstRefused first
      obtain ⟨-, step, -, reason, -, -, -, rfl⟩ := first
      rw [run_deliver, run]
      exact ⟨rfl, rfl, changes.onlyRemovedAt gone⟩
  · intro extraction possible
    cases steps : (command.artifacts.steps extraction).foldlM WriteStep.effect tree with
    | ok tree' =>
      obtain ⟨changes, -, placed⟩ := Extraction.placed_of_steps steps
      rw [run_deliver, Extraction.run_write_of_ok steps]
      exact ⟨rfl, rfl, changes, placed⟩
    | error refusal =>
      obtain ⟨fault, stopped, -, run⟩ := Extraction.run_write_of_error steps
      refine absurd ⟨fault, ?_⟩ possible
      rw [run]
      rfl

end ExtractCommand

/-! ## Looking up -/

namespace LookUpCommand

variable (command : LookUpCommand) (decompress : Decompressor) (tree : FileTree)

/-- What is made of the map: the lines for all the values that are asked for, or the first fault. -/
def made : Except Refusal (Except Fault (List String)) := do
  let source ← tree.input decompress command.map
  return Renumbering.read source >>= command.lines

lemma blamesData_lookUp (map : Renumbering) (value : UInt64) :
    BlamesData (command.lookUp map value) := by
  rw [lookUp]
  split_ifs
  · exact (map.blamesData_placeOf ⟨value⟩).map toString
  · exact (map.blamesData_idAt value.toNat).map toString

lemma blamesData_lines (map : Renumbering) : BlamesData (command.lines map) :=
  .mapM (fun value => (command.blamesData_lookUp map value).map _) command.values

lemma carriedOut : CarriedOut [command.map] (command.made decompress tree)
    (fun lines => .done { exit := 0, output := String.join lines }) tree
    ((command.script decompress).run tree) := by
  refine .withSource fun source => ?_
  refine .of_outcome ((Renumbering.blamesData_read source).bind command.blamesData_lines)
    (fun fault given => ?_) fun lines given => ?_
  · rw [given]
    rfl
  · rw [given]

/-- Holds of the lines that answer the values, one for one and in their order. -/
def Answered (map : Renumbering) (lines : List String) : Prop :=
  List.Forall₂ (fun value line => ∃ found, command.lookUp map value = .ok found ∧
    s!"{value.toNat} {found}\n" = line) command.values lines

lemma lines_eq_ok_iff {map : Renumbering} {lines : List String} :
    command.lines map = .ok lines ↔ command.Answered map lines := by
  simp only [LookUpCommand.lines, mapM_eq_ok_iff, map_eq_ok, Answered]

lemma exists_lines_eq_error_iff {map : Renumbering} :
    (∃ fault, command.lines map = .error fault) ↔
      ∃ value ∈ command.values, ∃ fault, command.lookUp map value = .error fault := by
  simp only [LookUpCommand.lines, exists_mapM_eq_error_iff, exists_eq_error_iff, map_eq_ok]
  simp

/-- Nothing is ever written.  The lines are printed if the map can be read and every value has an
answer, and there are no lines otherwise. -/
def LeavesNoTrace (result : Answer × FileTree) : Prop :=
  Traceless [command.map] (command.made decompress tree) (fun _ => False) (fun _ => False)
      (fun lines output tree' => output = String.join lines ∧ tree' = tree) tree result ∧
    ∀ source, tree.input decompress command.map = .ok source →
      ((∃ fault, command.made decompress tree = .ok (.error fault)) ↔
        (∃ fault, Renumbering.read source = .error fault) ∨
          ∃ map, Renumbering.read source = .ok map ∧
            ∃ value ∈ command.values, ∃ fault, command.lookUp map value = .error fault) ∧
      ∀ lines, command.made decompress tree = .ok (.ok lines) ↔
        ∃ map, Renumbering.read source = .ok map ∧ command.Answered map lines

lemma leavesNoTrace :
    command.LeavesNoTrace decompress tree ((command.script decompress).run tree) := by
  refine ⟨(command.carriedOut decompress tree).traceless (fun _ => False.elim) fun lines _ =>
    ⟨rfl, rfl, rfl⟩, fun source opened => ?_⟩
  have outcome : command.made decompress tree =
      .ok (Renumbering.read source >>= command.lines) := by
    rw [made, opened]
    rfl
  simp only [outcome, Except.ok.injEq, ← lines_eq_ok_iff, ← exists_lines_eq_error_iff]
  cases Renumbering.read source <;> simp [bind, Except.bind]

end LookUpCommand

/-! ## All commands -/

/-- **A failed command leaves no trace.**  Whatever the arguments ask for, the exit code is 2 if the
data are at fault, and 1 if an input cannot be opened or a file cannot be written.  The tree is as
it was then, unless artifacts had to be withdrawn, and nothing is printed.  A command that succeeds
has changed what it was to write, and nothing else. -/
theorem failed_commands_leave_no_trace (decompress : Decompressor) (arguments : List String)
    (tree : FileTree) :
    let request := Request.ofArguments arguments
    let result := (request.script decompress).run tree
    match request with
    | .encode command => command.LeavesNoTrace decompress tree result
    | .extract command => command.LeavesNoTrace decompress tree result
    | .lookUp command => command.LeavesNoTrace decompress tree result
    | .version | .help | .misuse => result.2 = tree := by
  dsimp only
  cases Request.ofArguments arguments with
  | encode command => exact command.leavesNoTrace decompress tree
  | extract command => exact command.leavesNoTrace decompress tree
  | lookUp command => exact command.leavesNoTrace decompress tree
  | version | help | misuse => rfl

/-- The first value has an answer and the second has none, so that no line is printed. -/
example :
    let tree := FileTree.empty.put ["q.map"] (.file (Text.encodeUtf8 "1 7 A\n2 5 B\n"))
    let result := (Request.ofArguments ["translate", "--map=q.map", "1", "3"]).script.run tree
    result.1.exit = 2 ∧ result.1.output = "" := ⟨rfl, rfl⟩

end AxiomPinpointing
