import ChartNet.Document.Reader
import ChartNet.Expr.Interpreter
import ChartNet.Files.Tree
import ChartNet.Network

/-!
# Models

The models of a network are documents in files. A path stands for the file at it, or for all the
documents in the directory at it and below, in the order of their paths.
-/

namespace ChartNet.Models

/-- A document to be read. -/
structure Source where
  /-- the path under which it was found -/
  path : String
  /-- none if there is no such file, or if it is no text -/
  text? : Option String

/-- The extension of documents. -/
def extension : String := "scxml"

/-- The names lead to a document. -/
def isDocument (names : List String) : Bool :=
  (names.getLast?.bind Path.extension?) = some extension

/-- The documents below a directory, in order. -/
def below (entries : List (String × FileTree)) : List (List String × Option String) :=
  ((FileTree.filesIn entries).filter fun f => isDocument f.1).mergeSort fun f g => Path.le f.1 g.1

/-- The documents that a path stands for. -/
def sources (look : String → Option FileTree) (path : String) : List Source :=
  match look path with
  | some (.directory entries) =>
    (below entries).map fun (names, text?) => ⟨Path.joinAll path names, text?⟩
  | some (.file text?) => [⟨path, text?⟩]
  | none => [⟨path, none⟩]

/-- The chart of a document. -/
def Source.read (s : Source) : Except Failure Chart :=
  match s.text? with
  | none => .error (Cause.file.within ("failed to read file '" ++ s.path ++ "'"))
  | some text => inCircumstance ("failed to parse file '" ++ s.path ++ "'") (Document.read text)

/-- The charts of all the documents that the paths stand for, in the order of the paths. -/
def load (look : String → Option FileTree) (paths : List String) : Except Failure (List Chart) :=
  (paths.flatMap (sources look)).mapM Source.read

/-- The compiled network of the models. -/
def compile (look : String → Option FileTree) (paths : List String) :
    Except Failure Compiled := do
  let charts ← load look paths
  match Network.compile scriptInterpreter charts with
  | .ok out => return out
  | .error f => .error ((Cause.network f).within "failed to compile models")

end ChartNet.Models
