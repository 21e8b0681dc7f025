import AxiomPinpointing.Extraction
import AxiomPinpointing.FileTree.Script

/-!
# Writing an extraction

The fragment and the index map are only of use together, so they are written **both or not at all**.
Each is first written to a part file beside its final path, and when both parts are there, each part
is moved into place.  If one of these steps is refused, then whatever files are at the four paths
are removed, those of an earlier extraction included; directories are never removed.

* `Artifacts` — the two paths.
* `WriteStep` — a step, and `Artifacts.steps`, the four of them.
* `Extraction.write` — the script.
-/

namespace AxiomPinpointing

/-- The paths of a fragment and its index map. -/
structure Artifacts where
  fragment : String
  map : String
deriving DecidableEq

namespace Artifacts

/-- The paths for a name in a directory. -/
def named (directory name : String) : Artifacts :=
  ⟨Path.join directory (name ++ ".krss"), Path.join directory (name ++ ".map")⟩

/-- The path at which a file is put together. -/
def partOf (path : String) : String :=
  path ++ ".part"

/-- All paths at which there may be a file in between: parts before artifacts. -/
def paths (artifacts : Artifacts) : List String :=
  [partOf artifacts.fragment, partOf artifacts.map, artifacts.fragment,
    artifacts.map]

end Artifacts

/-! ## Steps -/

inductive WriteStep where
  | writePart (path text : String)
  | movePart (path : String)
deriving DecidableEq

/-- The path that is to blame if the step is refused: the one that it was to create. -/
def WriteStep.blamed : WriteStep → String
  | writePart path _ => Artifacts.partOf path
  | movePart path => path

def WriteStep.script : WriteStep → Script (Except Refusal Unit)
  | writePart path text => .create (Artifacts.partOf path) text .done
  | movePart path => .move (Artifacts.partOf path) path .done

/-- Takes steps in order; the first that is refused is the last that is taken. -/
def takeSteps : List WriteStep → Script (Except Fault Unit)
  | [] => pure (.ok ())
  | step :: rest => do
    match ← step.script with
    | .ok () => takeSteps rest
    | .error refusal => pure (.error (.unwritable step.blamed refusal))

/-- Removes the regular files among some paths. -/
def discardAll : List String → Script Unit
  | [] => pure ()
  | path :: rest => .discard path (discardAll rest)

/-! ## The script -/

/-- **The four steps**: both parts, then both moves. -/
def Artifacts.steps (artifacts : Artifacts) (extraction : Extraction) : List WriteStep :=
  [.writePart artifacts.fragment extraction.fragment,
    .writePart artifacts.map extraction.renumbering.text,
    .movePart artifacts.fragment, .movePart artifacts.map]

/-- Reports that both artifacts are in place. -/
def Artifacts.written (artifacts : Artifacts) : Run Artifacts :=
  ⟨.ok artifacts, [⟨.info, .extract,
    s!"Wrote {Text.quote artifacts.fragment} and {Text.quote artifacts.map}"⟩]⟩

/-- **Writes an extraction under a name in a directory**, both artifacts or none. -/
def Extraction.write (extraction : Extraction) (directory name : String) :
    Script (Run Artifacts) := do
  let artifacts := Artifacts.named directory name
  match ← takeSteps (artifacts.steps extraction) with
  | .ok () => pure artifacts.written
  | .error fault => do
    discardAll artifacts.paths
    pure (Extraction.logged (.error fault))

end AxiomPinpointing
