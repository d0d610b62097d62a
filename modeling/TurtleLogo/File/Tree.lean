/-
# `TurtleLogo.File.Tree` — directories, files, and what a path leads to

A path is followed part by part.  Every part but the last must lead to a
directory, two dots lead to the directory above, and above the uppermost one
is that directory itself.
-/
import TurtleLogo.File.Fault
import TurtleLogo.File.Path

namespace TurtleLogo.File

/-- A file with its bytes, or a directory with what is in it by name. -/
inductive Tree where
  | file (bytes : List UInt8)
  | directory (entries : List (String × Tree))

namespace Tree

def entry? (name : String) : List (String × Tree) → Option Tree
  | [] => none
  | (key, t) :: rest => if key = name then some t else entry? name rest

/-- How many bytes a name may have. -/
def longestName : Nat := 255

/-- How many bytes a path may have. -/
def longestPath : Nat := 4095

/-- What the entry of a directory with a given name is. -/
def lookup (entries : List (String × Tree)) (name : String) : Except Fault Tree :=
  if longestName < name.utf8ByteSize then .error .longName
  else
    match entry? name entries with
    | some t => .ok t
    | none => .error .missing

/-- Follows the parts of a path from `here`; `above` are the directories above it, the nearest
first.  An empty part at the end asks for a directory, as an idle one does. -/
def follow (above : List Tree) (here : Tree) : List String → Except Fault Tree
  | [] => .ok here
  | part :: rest =>
    match here with
    | .file _ => .error .notADirectory
    | .directory entries =>
      if isIdle part then follow above here rest
      else if part == ".." then
        match above with
        | [] => follow [] here rest
        | up :: above => follow above up rest
      else
        match lookup entries part with
        | .ok t => follow (here :: above) t rest
        | .error fault => .error fault

/-- The bytes of the file that a path leads to.  Paths that start with a slash start at `root`,
all others at `here`. -/
def read (root here : Tree) (path : String) : Except Fault (List UInt8) :=
  if longestPath < path.utf8ByteSize then .error .longName
  else
    match follow [] (if path.startsWith "/" then root else here) (parts path) with
    | .ok (.file bytes) => .ok bytes
    | .ok (.directory _) => .error .directory
    | .error fault => .error fault

mutual
/-- A tree with a file put in at the end of a path; directories on the way are made. -/
def put (bytes : List UInt8) : List String → Tree → Tree
  | [], _ => .file bytes
  | part :: rest, .directory entries => .directory (putEntry bytes part rest entries)
  | part :: rest, .file _ => .directory [(part, put bytes rest (.directory []))]

/-- The entries of a directory with a file put in below the entry `part`. -/
def putEntry (bytes : List UInt8) (part : String) (rest : List String) :
    List (String × Tree) → List (String × Tree)
  | [] => [(part, put bytes rest (.directory []))]
  | (key, t) :: entries =>
    if key = part then (key, put bytes rest t) :: entries
    else (key, t) :: putEntry bytes part rest entries
end

end Tree

end TurtleLogo.File
