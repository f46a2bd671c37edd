import ChartNet.Xml.Attribute

/-!
# Writing marked-up text

A document is written as a list of tags with their attributes. Each tag stands on a line of its own,
indented by four blanks for every element around it.
-/

namespace ChartNet.Xml

/-- An attribute that is written. -/
abbrev Attribute := String × String

/-- A tag that is written. -/
inductive Written where
  /-- the start of an element with content -/
  | start (name : String) (attributes : List Attribute)
  /-- an element without content -/
  | empty (name : String) (attributes : List Attribute)
  /-- the end of an element with content -/
  | finish (name : String)
deriving DecidableEq, Repr

/-- An attribute, with the blank before it. -/
def attributeText (a : Attribute) : List Char :=
  ' ' :: a.1.toList ++ ['=', '"'] ++ escape a.2 ++ ['"']

/-- A tag. -/
def Written.text : Written → List Char
  | start name as => '<' :: name.toList ++ as.flatMap attributeText ++ ['>']
  | empty name as => '<' :: name.toList ++ as.flatMap attributeText ++ ['/', '>']
  | finish name => '<' :: '/' :: name.toList ++ ['>']

/-- A line of its own. -/
def line (depth : Nat) (w : Written) : List Char :=
  '\n' :: List.replicate (4 * depth) ' ' ++ w.text

/-- The tags as lines, at the given depth. -/
def lines : Nat → List Written → List Char
  | _, [] => []
  | depth, w :: ws =>
    match w with
    | .start .. => line depth w ++ lines (depth + 1) ws
    | .empty .. => line depth w ++ lines depth ws
    | .finish _ => line (depth - 1) w ++ lines (depth - 1) ws

/-- The first line of a document. -/
def prologue : String := "<?xml version=\"1.0\" encoding=\"UTF-8\"?>"

/-- A document. -/
def print (ws : List Written) : String := String.ofList (prologue.toList ++ lines 0 ws)

end ChartNet.Xml
