import ChartNet.Files.Path

/-!
# File trees

Files as a value: a tree of directories with texts at its leaves. A place in a tree is the list of
the names on the way to it from the root. Where a path leads from a place, and what the tree is once
directories were made on the way, is found name by name.

* `FileTree.at?`: what stands at a place.
* `FileTree.walk`: where names lead from a place.
* `FileTree.files`: all files, with their places.
* `FileTree.put`, `FileTree.makeFrom`: the tree with something else at a place, and with directories
  on a way.
-/

namespace ChartNet

/-- A file or a directory. -/
inductive FileTree where
  /-- a file with its text; there is none if the content is no text -/
  | file (text? : Option String)
  /-- a directory, with its entries in no particular order -/
  | directory (entries : List (String × FileTree))

namespace FileTree

/-- A file with some bytes. -/
def ofBytes (bytes : ByteArray) : FileTree := .file (String.fromUTF8? bytes)

/-- It is a directory. -/
def isDirectory : FileTree → Bool
  | file _ => false
  | directory _ => true

/-- The entry of a directory under a name. -/
def entry? (name : String) : FileTree → Option FileTree
  | file _ => none
  | directory entries => entries.lookup name

/-! ### Looking up -/

/-- What stands where the names lead. -/
def at? : FileTree → List String → Option FileTree
  | t, [] => some t
  | t, name :: names => (t.entry? name).bind (at? · names)

/-- The names lead to a directory. -/
def isDirectoryAt (t : FileTree) (place : List String) : Bool := (t.at? place).any isDirectory

/-- Where the names of a path lead from a place. A point stays, and two points go up, or stay if
that is the root. Every name but the last is one of a directory. -/
def walk (t : FileTree) : List String → List String → Option (List String)
  | place, [] => some place
  | place, name :: names =>
    if !t.isDirectoryAt place then none
    else match name with
      | "" | "." => walk t place names
      | ".." => walk t place.dropLast names
      | name => if (t.at? (place ++ [name])).isSome then walk t (place ++ [name]) names else none

mutual

/-- All files, each with the names on the way to it. -/
def files : FileTree → List (List String × Option String)
  | .file text? => [([], text?)]
  | .directory entries => filesIn entries

/-- All files in entries. -/
def filesIn : List (String × FileTree) → List (List String × Option String)
  | [] => []
  | e :: es => entryFiles e ++ filesIn es

/-- All files in an entry. -/
def entryFiles : String × FileTree → List (List String × Option String)
  | (name, t) => (files t).map fun (names, text?) => (name :: names, text?)

end

/-! ### Creating -/

/-- Entries with another tree under a name. -/
def setEntry (name : String) (t : FileTree) :
    List (String × FileTree) → List (String × FileTree)
  | [] => [(name, t)]
  | e :: es => if e.1 = name then (name, t) :: es else e :: setEntry name t es

/-- The tree with another one where the names lead. -/
def put : FileTree → List String → FileTree → FileTree
  | _, [], new => new
  | .file text?, _ :: _, _ => .file text?
  | .directory entries, name :: names, new =>
    let below := (entries.lookup name).getD (.directory [])
    .directory (setEntry name (below.put names new) entries)

/-- Creates the directories that the names of a path lead through from a place, if they are not
there. -/
def makeFrom : FileTree → List String → List String → Option FileTree
  | t, place, [] => if t.isDirectoryAt place then some t else none
  | t, place, name :: names =>
    if !t.isDirectoryAt place then none
    else match name with
      | "" | "." => makeFrom t place names
      | ".." => makeFrom t place.dropLast names
      | name =>
        let place := place ++ [name]
        if (t.at? place).isSome then makeFrom t place names
        else if Path.isName name then makeFrom (t.put place (.directory [])) place names
        else none

end FileTree

end ChartNet
