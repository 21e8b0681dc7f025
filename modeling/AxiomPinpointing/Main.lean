import AxiomPinpointing.CommandLine.Answer

/-!
# The program

Carries out the script of a request on the files of the machine.  Nothing is decided here: an
operation is attempted, and its answer handed back to the script.
-/

namespace AxiomPinpointing

/-- The reason behind an error of the system. -/
def Refusal.ofError : IO.Error → Refusal
  | .noFileOrDirectory _ _ _ => .notFound
  | .permissionDenied _ _ _ => .permissionDenied
  | .resourceExhausted _ _ _ => .storageFull
  | .invalidArgument _ code _ => if code = 36 then .nameTooLong else .nulInPath
  | .inappropriateType _ code _ => if code = 20 then .notDirectory else .isDirectory
  | _ => .notFound

/-- Attempts an operation, and says why it was refused if it was. -/
def attemptNow {α : Type} (operation : IO α) : IO (Except Refusal α) := do
  try
    return .ok (← operation)
  catch error =>
    return .error (Refusal.ofError error)

/-- What can be read from a file that has been opened. -/
def sourceNow (handle : IO.FS.Handle) : IO Source := do
  match ← attemptNow handle.readBinToEnd with
  | .ok bytes => return ⟨bytes.data.toList, .complete⟩
  | .error _ => return .unreadable

def Script.perform {α : Type} : Script α → IO α
  | .done result => pure result
  | .openFile path next => do
    let answer ← attemptNow (IO.FS.Handle.mk path .read >>= sourceNow)
    (next answer).perform
  | .create path text next => do
    let answer ← attemptNow (IO.FS.writeFile path text)
    (next answer).perform
  | .move source target next => do
    let answer ← attemptNow (IO.FS.rename source target)
    (next answer).perform
  | .discard path next => do
    let _ ← attemptNow (IO.FS.removeFile path)
    next.perform

end AxiomPinpointing

open AxiomPinpointing in
/-- Reads the arguments, does what they ask for, and prints the answer. -/
def main (arguments : List String) : IO UInt32 := do
  let answer ← (Request.ofArguments arguments).script.perform
  IO.eprint answer.errors
  IO.print answer.output
  return answer.exit
