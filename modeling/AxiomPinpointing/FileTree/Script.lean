import AxiomPinpointing.FileTree

/-!
# Scripts of file operations

What a program does with files is a **script**: a file operation, and for each answer to it what to
do next, until there is a result.  A script does nothing by itself.  It can be run on a tree, and
the same script can be carried out on the files of a machine; and as it is cut into single
operations, one can also say what happens if two scripts take turns.

* `Script` — the scripts.
* `Script.run` — a script, run on a tree.
* `Script.run_bind` — scripts run one after the other, on the tree that each leaves to the next.
-/

namespace AxiomPinpointing

/-- A plan of file operations that comes to a result. -/
inductive Script (α : Type) where
  | done (result : α)
  | openFile (path : String) (next : Except Refusal Source → Script α)
  | create (path text : String) (next : Except Refusal Unit → Script α)
  | move (source target : String) (next : Except Refusal Unit → Script α)
  /-- Remove what is at a path, if it is a regular file. -/
  | discard (path : String) (next : Script α)

namespace Script

variable {α β : Type}

/-- Goes on with another script that depends on the result. -/
def andThen : Script α → (α → Script β) → Script β
  | done result, f => f result
  | openFile path next, f => openFile path fun answer => (next answer).andThen f
  | create path text next, f => create path text fun answer => (next answer).andThen f
  | move source target next, f => move source target fun answer => (next answer).andThen f
  | discard path next, f => discard path (next.andThen f)

instance : Monad Script where
  pure := done
  bind := andThen

/-- What an attempt at changing a tree answers, and the tree afterwards: as it was, if the attempt
was refused. -/
def attempt (tree : FileTree) : Except Refusal FileTree → Except Refusal Unit × FileTree
  | .ok changed => (.ok (), changed)
  | .error refusal => (.error refusal, tree)

/-- **Runs a script on a tree.** -/
def run : Script α → FileTree → α × FileTree
  | done result, tree => (result, tree)
  | openFile path next, tree => (next (tree.openFile path)).run tree
  | create path text next, tree =>
    let (answer, changed) := attempt tree (tree.create path (Text.encodeUtf8 text))
    (next answer).run changed
  | move source target next, tree =>
    let (answer, changed) := attempt tree (tree.move source target)
    (next answer).run changed
  | discard path next, tree => next.run (tree.discard path)

/-- The second script starts from the tree that the first one left. -/
theorem run_bind (script : Script α) (f : α → Script β) (tree : FileTree) :
    (script >>= f).run tree = (f (script.run tree).1).run (script.run tree).2 := by
  induction script generalizing tree with
  | done result => rfl
  | openFile path next ih => exact ih _ _
  | create path text next ih => exact ih _ _
  | move source target next ih => exact ih _ _
  | discard path next ih => exact ih _

end Script

end AxiomPinpointing
