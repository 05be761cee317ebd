-- SUMMARY: Files and directories as the program finds them, and what stands at a path.
import Flowmeter.Flow.Wire
import Flowmeter.OsError
import Flowmeter.Text.Blank

/-!
# File trees

A path is a text of names between slashes. It is followed from the root if it
starts with a slash, and otherwise from the directory the program runs in. What
lies above a directory on the way is remembered for the name `..`; above the
root is the root. There are no links.
-/

namespace Flowmeter

inductive FileTree where
  | file (content : Bytes)
  /-- A directory can be opened, but no reading of it succeeds. -/
  | directory (entries : List (String × FileTree))

namespace FileTree

/-- The most bytes of a path. -/
def maxPathLength : Nat := 4095

/-- The most bytes of a name in a path. -/
def maxNameLength : Nat := 255

/-- Follows `names` from the first of the trees, each of which stands in the next. -/
def follow : List FileTree → List String → Except OsError FileTree
  | [], _ => .error .noSuchFile
  | tree :: _, [] => .ok tree
  | .file _ :: _, _ :: _ => .error .notADirectory
  | here@(.directory _) :: [], ".." :: names => follow [here] names
  | .directory _ :: above, ".." :: names => follow above names
  | here@(.directory entries) :: above, name :: names =>
    if name = "" ∨ name = "." then follow (here :: above) names
    else if maxNameLength < name.utf8ByteSize then .error .fileNameTooLong
    else
      match entries.lookup name with
      | some tree => follow (tree :: here :: above) names
      | none => .error .noSuchFile

/-- What stands at `path` in a tree with this root, seen from the directory `current` in the root. -/
def find (root current : FileTree) (path : String) : Except OsError FileTree :=
  let names := (Text.splitAt '/' path.toList).map String.ofList
  if path = "" then .error .noSuchFile
  else if maxPathLength < path.utf8ByteSize then .error .fileNameTooLong
  else if names.head? = some "" then follow [root] names
  else follow [current, root] names

end FileTree

end Flowmeter
