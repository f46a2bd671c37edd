import ChartNet.Files.Tree

/-!
# File systems

The files among which the program runs: a tree, and the directory in it from which the program was
started. A path that begins with a slash leads from the root of the tree, and any other one from
that directory. Looking something up and creating files and directories are functions on file
systems.

* `FileSystem.find?`: what stands at a path.
* `FileSystem.makeDirectories`, `FileSystem.create`: the file system after a directory or a file was
  created.
-/

namespace ChartNet

/-- A tree of files, and a place to run in. -/
structure FileSystem where
  /-- all files and directories that there are -/
  root : FileTree
  /-- the place of the directory in which the program runs -/
  working : List String

namespace FileSystem

/-- The place from which a path leads. -/
def origin (fs : FileSystem) (path : String) : List String :=
  if Path.isAbsolute path then [] else fs.working

/-- Where the names of a path lead. -/
def reach? (fs : FileSystem) (path : String) : Option (List String) :=
  fs.root.walk (fs.origin path) (Path.names path)

/-- Where a path leads, if it can be used. -/
def locate? (fs : FileSystem) (path : String) : Option (List String) :=
  if Path.isUsable path then fs.reach? path else none

/-- What stands at a path. -/
def find? (fs : FileSystem) (path : String) : Option FileTree := (fs.locate? path).bind fs.root.at?

/-- Creates a directory and those around it. For the empty path there is nothing to do. A directory
that is called by a point at the end of the path has to be there. -/
def makeDirectories (fs : FileSystem) (path : String) : Option FileSystem :=
  let names := Path.names path
  if path.isEmpty then some fs
  else if !Path.isUsable path then none
  else if (names.filter (!·.isEmpty)).getLast? = some "." then
    if (fs.find? path).any FileTree.isDirectory then some fs else none
  else (fs.root.makeFrom (fs.origin path) names).map fun root => { fs with root }

/-- Creates a file in a directory that is there, or replaces the text of one. -/
def create (fs : FileSystem) (path text : String) : Option FileSystem := do
  let names := Path.names path
  let name ← names.getLast?
  guard (Path.isUsable path && Path.isName name)
  let place ← fs.root.walk (fs.origin path) names.dropLast
  guard (fs.root.isDirectoryAt place && !fs.root.isDirectoryAt (place ++ [name]))
  return { fs with root := fs.root.put (place ++ [name]) (.file (some text)) }

end FileSystem

end ChartNet
