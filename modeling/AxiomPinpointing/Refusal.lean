/-!
# Why a file operation is refused

A file operation either works or is refused for one of a few reasons.  The reason is reported in
two wordings: a short one, used for the artifacts of an extraction, and the one of the operating
system, with its error number, used for files named on the command line.
-/

namespace AxiomPinpointing

/-- The reason why a file operation was refused. -/
inductive Refusal where
  /-- There is nothing under the name, or a directory above it is missing. -/
  | notFound
  /-- The user may not do this. -/
  | permissionDenied
  /-- There is a directory where a file was expected. -/
  | isDirectory
  /-- There is a file where a directory was expected. -/
  | notDirectory
  /-- The device is full. -/
  | storageFull
  /-- A name is longer than names may be. -/
  | nameTooLong
  /-- There is a NUL in the path, so that it is not the path of anything. -/
  | nulInPath
deriving DecidableEq

namespace Refusal

/-- The short wording. -/
def message : Refusal → String
  | notFound => "entity not found"
  | permissionDenied => "permission denied"
  | isDirectory => "is a directory"
  | notDirectory => "not a directory"
  | storageFull => "no storage space"
  | nameTooLong => "invalid filename"
  | nulInPath => "invalid input parameter"

/-- The wording of the operating system. -/
def systemMessage : Refusal → String
  | notFound => "No such file or directory (os error 2)"
  | permissionDenied => "Permission denied (os error 13)"
  | isDirectory => "Is a directory (os error 21)"
  | notDirectory => "Not a directory (os error 20)"
  | storageFull => "No space left on device (os error 28)"
  | nameTooLong => "File name too long (os error 36)"
  | nulInPath => "file name contained an unexpected NUL byte"

end Refusal

end AxiomPinpointing
