/-
# `TurtleLogo.File.Fault` — what the operating system says about files
-/
import TurtleLogo.Text.Quoted

namespace TurtleLogo.File

/-- Why the operating system does not do what a program wants of a file. -/
inductive Fault where
  | missing
  | notADirectory
  | directory
  | full
  | longName
deriving DecidableEq, Repr

def Fault.words : Fault → String
  | .missing => "[Errno 2] No such file or directory"
  | .notADirectory => "[Errno 20] Not a directory"
  | .directory => "[Errno 21] Is a directory"
  | .full => "[Errno 28] No space left on device"
  | .longName => "[Errno 36] File name too long"

/-- The words of the operating system about the file with a given path. -/
def Fault.reason (fault : Fault) (path : String) : String :=
  fault.words ++ ": " ++ Text.quoted path

end TurtleLogo.File
