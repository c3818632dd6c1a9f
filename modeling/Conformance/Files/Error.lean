import Conformance.Text.Quoted

/-!
# Faults of files

Each fault has the number and the words by which systems know it, and names the path that was
asked for.
-/
namespace Conformance

inductive FileFault where
  | notFound
  | exists
  | notDirectory
  | isDirectory
  | nameTooLong
  | tooManyLinks
deriving DecidableEq

structure FileError where
  fault : FileFault
  path : Text
deriving DecidableEq

namespace FileFault

def number : FileFault → Nat
  | .notFound => 2
  | .exists => 17
  | .notDirectory => 20
  | .isDirectory => 21
  | .nameTooLong => 36
  | .tooManyLinks => 40

def description : FileFault → Text
  | .notFound => "No such file or directory"
  | .exists => "File exists"
  | .notDirectory => "Not a directory"
  | .isDirectory => "Is a directory"
  | .nameTooLong => "File name too long"
  | .tooManyLinks => "Too many levels of symbolic links"

end FileFault

def FileError.message (e : FileError) : Text :=
  "[Errno " ++ Text.ofNat e.fault.number ++ "] " ++ e.fault.description ++ ": " ++ e.path.quoted

end Conformance
