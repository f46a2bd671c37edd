import ChartNet.Fault
import ChartNet.Xml.Attribute

/-!
# Failures

What ends the reading of a document or a run of the program: a cause, and the circumstances in which
it arose, from the outermost to the innermost. Some causes have no wording of their own, and then
the circumstances say all there is to say.
-/

namespace ChartNet

/-- What can be wrong with the structure of a document. -/
inductive DocumentFault where
  /-- a start tag that may not stand there -/
  | unexpectedStart (tag : String)
  /-- an end tag that may not stand there -/
  | unexpectedEnd (tag : String)
  /-- an attribute that is needed is not there -/
  | missingAttribute (key : String)
  /-- an attribute that the element does not have -/
  | unknownAttribute (key : String)
  /-- the value of an attribute cannot be read -/
  | invalidValue (key value : String)
  /-- the text ends inside an element -/
  | unclosedTags
  /-- the text has no element for the chart -/
  | missingRoot
deriving DecidableEq, Repr

/-- The wording of a document's fault. -/
def DocumentFault.message : DocumentFault → String
  | unexpectedStart tag => "unknown or unexpected start tag `" ++ tag ++ "`"
  | unexpectedEnd tag => "unknown or unexpected end tag `" ++ tag ++ "`"
  | missingAttribute key => "missing required attribute `" ++ key ++ "`"
  | unknownAttribute key => "unknown or unexpected attribute key `" ++ key ++ "`"
  | invalidValue key value => "invalid value `" ++ value ++ "` for attribute `" ++ key ++ "`"
  | unclosedTags => "open tags have not been closed"
  | missingRoot => "missing `scxml` root element"

/-- Why something failed. -/
inductive Cause where
  /-- a document does not follow the grammar -/
  | document (f : DocumentFault)
  /-- a text cannot be cut into tags -/
  | markup (f : Xml.Fault)
  /-- the attributes of a tag cannot be read -/
  | attributes (f : Xml.AttributeFault)
  /-- an entity in a value cannot be replaced -/
  | entity (f : Xml.EntityFault)
  /-- a chart or a network is not in order -/
  | network (f : Fault)
  /-- a file or directory could not be read or written -/
  | file

/-- The wording of a cause, if it has one. -/
def Cause.message? : Cause → Option String
  | document f => some f.message
  | network f => some f.message
  | markup _ | attributes _ | entity _ | file => none

/-- A cause and its circumstances. -/
structure Failure where
  /-- what was being done, outermost first -/
  circumstances : List String
  /-- what went wrong -/
  cause : Cause

namespace Failure

/-- The wording of a failure. -/
def message (f : Failure) : String :=
  ": ".intercalate (f.circumstances ++ f.cause.message?.toList)

/-- The failure of something that was a part of something else. -/
def within (circumstance : String) (f : Failure) : Failure :=
  { f with circumstances := circumstance :: f.circumstances }

end Failure

/-- A cause in one circumstance. -/
def Cause.within (circumstance : String) (c : Cause) : Failure := ⟨[circumstance], c⟩

/-- A cause on its own. -/
def Cause.alone (c : Cause) : Failure := ⟨[], c⟩

/-- Says in which circumstance a failure arose. -/
def inCircumstance {α : Type} (circumstance : String) : Except Failure α → Except Failure α
  | .ok a => .ok a
  | .error f => .error (f.within circumstance)

end ChartNet
