import ChipEight.Host.Refusal
import ChipEight.Word

/-!
# Folders of program images

The files that a host can read: a folder with some files in it and no folders
below.
-/

namespace ChipEight

/-- A folder, as the names of its files and their contents. -/
structure Folder where
  files : List (String × List Byte) := []

namespace Folder

/-- The parts of a path between its slashes, without the parts that stay in the
same folder. -/
def steps (path : String) : List String :=
  (path.splitOn "/").filter fun part => part != "" && part != "."

/-- Whether a path leads to a folder: it is not empty, and only stays in a
folder or goes up. -/
def isFolder (path : String) : Bool := path != "" && (steps path).all (· == "..")

/-- The name of the file in this folder that a relative path leads to. -/
def fileName (path : String) : String :=
  if path.startsWith "/" then path else "/".intercalate (steps path)

/-- The contents of the file that a path leads to. -/
def read (f : Folder) (path : String) : Except FileError (List Byte) :=
  if path.contains '\x00' then .error .nulInName
  else match f.files.find? fun file => file.1 == path || file.1 == fileName path with
    | some (_, bytes) => .ok bytes
    | none => .error (if isFolder path then .isDirectory path else .notFound path)

end Folder

end ChipEight
