/-!
# Marked-up text

What a marked-up text is cut into. A reader of documents sees tags; what stands between them
(text, comments, declarations) is passed over. The attributes of a tag are kept as they are written,
because not every reader looks at them.
-/

namespace ChartNet.Xml

/-- A start tag: its name, and the text in which its attributes stand. -/
structure Tag where
  /-- the name of the element -/
  name : String
  /-- the text after the name, which is looked at only if the element is known -/
  attributes : List Char
deriving DecidableEq, Repr

/-- A piece of marked-up text. -/
inductive Event where
  /-- the start of an element -/
  | start (tag : Tag)
  /-- an element without content -/
  | empty (tag : Tag)
  /-- the end of an element -/
  | finish (name : String)
  /-- anything that is no tag -/
  | other
deriving DecidableEq, Repr

/-- Why a text cannot be cut. -/
inductive Fault where
  /-- neither a comment nor a literal section nor a document type follows the exclamation mark -/
  | invalidBang
  /-- a literal section does not end -/
  | unclosedCData
  /-- a comment does not end -/
  | unclosedComment
  /-- a document type does not end -/
  | unclosedDoctype
  /-- an instruction does not end -/
  | unclosedInstruction
  /-- a tag does not end -/
  | unclosedTag
  /-- a document type has no name -/
  | missingDoctypeName
  /-- an end tag for another element than the innermost open one -/
  | mismatchedEnd
  /-- an end tag with no open element -/
  | unmatchedEnd
deriving DecidableEq, Repr

/-- Blanks of marked-up text. -/
def isSpace (c : Char) : Bool := c = ' ' || c = '\t' || c = '\r' || c = '\n'

/-- The number of bytes of a text. -/
def bytes : List Char → Nat
  | [] => 0
  | c :: cs => c.utf8Size + bytes cs

/-- What a text is cut into: the pieces, each with the offset at which the one before it ended, and
how the cutting ended. -/
structure Pieces where
  /-- the pieces in the order of the text -/
  events : List (Nat × Event)
  /-- the fault that ended the cutting, with the offset at which the last piece ended -/
  fault? : Option (Nat × Fault)

end ChartNet.Xml
