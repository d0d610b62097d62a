/-
# `TurtleLogo.File.Path` — paths as texts

The parts of a path are separated by slashes.  Empty parts and single dots
mean nothing, and two dots step back.
-/
namespace TurtleLogo.File

/-- The parts of a path, the empty ones included. -/
def parts (path : String) : List String :=
  path.splitOn "/"

/-- A path below a directory. -/
def join (dir name : String) : String :=
  if dir.isEmpty || dir.endsWith "/" then dir ++ name else dir ++ "/" ++ name

/-- Whether a part of a path means nothing. -/
def isIdle (part : String) : Bool :=
  part == "" || part == "."

/-- Takes one part of a path into account; `taken` are the parts before it, latest first. -/
def stepInto (taken : List String) (part : String) : List String :=
  if isIdle part then taken
  else if part == ".." then
    match taken with
    | [] => [".."]
    | last :: rest => if last == ".." then ".." :: taken else rest
  else part :: taken

/-- The parts of a relative path without idle ones and without steps that are undone. -/
def normalParts (ps : List String) : List String :=
  (ps.foldl stepInto []).reverse

/-- A relative path made of parts; no parts at all are the place itself. -/
def ofParts (ps : List String) : String :=
  if ps.isEmpty then "." else String.intercalate "/" ps

/-- A path that starts in the directory `dir`, in its shortest form as seen from there: a path
that leaves `dir` and comes back to it does not leave it. -/
def normalWithin (dir path : String) : String :=
  match normalParts (dir :: parts path) with
  | [] => ".."
  | first :: rest => ofParts (if first == dir then rest else ".." :: first :: rest)

end TurtleLogo.File
