import ChartNet.Text.Blank

/-!
# Paths

Paths are texts, because they are shown as they were given. A slash divides a path into names.
-/

namespace ChartNet.Path

/-- The path of something in a directory. -/
def join (directory name : String) : String :=
  if directory.isEmpty || directory.endsWith "/" then directory ++ name
  else directory ++ "/" ++ name

/-- The path of something further down, by the names on the way. -/
def joinAll (directory : String) (names : List String) : String := names.foldl join directory

/-- The names in a path, from left to right. They may be empty. -/
def names (path : String) : List String := (Text.pieces '/' path.toList).map String.ofList

/-- What follows the last point of a name; a name that only starts with a point has no extension. -/
def extension? (name : String) : Option String :=
  let backwards := name.toList.reverse
  match backwards.dropWhile (· != '.') with
  | _ :: _ :: _ => some (String.ofList (backwards.takeWhile (· != '.')).reverse)
  | _ => none

/-- The order of files by the names on the way to them; what stands in a directory follows the
directory itself. -/
def le : List String → List String → Bool
  | [], _ => true
  | _ :: _, [] => false
  | a :: as, b :: bs => if a = b then le as bs else decide (a < b)

/-- A path can be used at all: it is not empty, holds no null character, and is not too long. -/
def isUsable (path : String) : Bool :=
  !path.isEmpty && path.toList.all (·.toNat != 0) && path.utf8ByteSize < 4096

/-- The path does not start from the directory in which the program runs. -/
def isAbsolute (path : String) : Bool := path.startsWith "/"

/-- A file or directory can be created under this name. -/
def isName (name : String) : Bool :=
  !name.isEmpty && name != "." && name != ".." && name.utf8ByteSize ≤ 255

end ChartNet.Path
