import ChartNet.Decimal.Notation
import ChartNet.Document.Vocabulary
import ChartNet.Xml.Printer

/-!
# Writing documents

The tags that spell a chart. Parts without content are left out or written as empty elements: no
data model without data, no entry or exit content without actions, no last block of a choice without
actions.
-/

namespace ChartNet

open Xml (Attribute Written)

/-- An element with the given content, or an empty one. -/
def element (tag : String) (attributes : List Attribute) (content : List Written) : List Written :=
  if content.isEmpty then [.empty tag attributes]
  else .start tag attributes :: content ++ [.finish tag]

/-- An attribute that is left out if it is not set. -/
def optionalAttribute (key : String) : Option String → List Attribute
  | some value => [(key, value)]
  | none => []

/-- A variable. -/
def Datum.written (d : Datum) : Written :=
  .empty "data" ([("id", d.id)] ++ optionalAttribute "expr" d.expr?
    ++ optionalAttribute "type" d.type?)

/-- A declaration. -/
def Declaration.written (d : Declaration) : Written :=
  match d with
  | timer name rate => .empty d.tag [("name", name), ("rate_hz", Decimal.positional rate)]
  | endpoint side name type => .empty d.tag [(side.key, name), ("type", type)]

/-- A parameter or field. -/
def Param.written (tag : String) (p : Param) : Written :=
  .empty tag [("name", p.name), ("expr", p.expr)]

mutual

/-- An action. A choice without branches is not written at all. -/
def Action.written : Action → List Written
  | .assign location expr => [.empty "assign" [("location", location), ("expr", expr)]]
  | .send event params => element "send" [("event", event)] (params.map (Param.written "param"))
  | .emit kind resource fields =>
    element kind.tag [(kind.key, resource)] (fields.map (Param.written "field"))
  | .choose [] _ => []
  | .choose ((condition, body) :: branches) otherwise =>
    .start "if" [("cond", condition)] :: (Block.written body ++ Branches.written branches
      ++ (if otherwise.isEmpty then [] else .empty "else" [] :: Block.written otherwise)
      ++ [.finish "if"])

/-- The actions of a block. -/
def Block.written : List Action → List Written
  | [] => []
  | a :: as => Action.written a ++ Block.written as

/-- A branch after the first, with its mark. -/
def Branch.written : String × List Action → List Written
  | (condition, body) => .empty "elseif" [("cond", condition)] :: Block.written body

/-- Branches after the first. -/
def Branches.written : List (String × List Action) → List Written
  | [] => []
  | b :: bs => Branch.written b ++ Branches.written bs

end

/-- The attribute of a trigger; a transition that waits for nothing has none. -/
def Trigger.attributes : Trigger → List Attribute
  | events [] => []
  | events names => [("event", " ".intercalate names)]
  | reception kind resource => [(kind.key, resource)]

/-- A transition. An element with a body keeps its end tag, even if nothing is written of it. -/
def Transition.written (t : Transition) : List Written :=
  let attributes := t.trigger.attributes ++ [("target", t.target)]
    ++ optionalAttribute "cond" t.guard?
  if t.body.isEmpty then [.empty t.trigger.tag attributes]
  else .start t.trigger.tag attributes :: Block.written t.body ++ [.finish t.trigger.tag]

/-- Entry or exit content. -/
def contentWritten (tag : String) (b : Block) : List Written :=
  if b.isEmpty then [] else .start tag [] :: Block.written b ++ [.finish tag]

/-- A state. -/
def State.written (s : State) : List Written :=
  element "state" [("id", s.id)]
    (contentWritten "onentry" s.entry ++ s.transitions.flatMap Transition.written
      ++ contentWritten "onexit" s.exit)

/-- The variables of a chart. -/
def dataWritten (ds : List Datum) : List Written :=
  if ds.isEmpty then [] else .start "datamodel" [] :: ds.map Datum.written ++ [.finish "datamodel"]

/-- The tags of a chart. -/
def Chart.written (c : Chart) : List Written :=
  .start "scxml" [("name", c.name), ("version", Document.version), ("model_src", ""),
      ("initial", c.initial), ("xmlns", Document.namespaceName), ("datamodel", Document.language)]
    :: dataWritten c.data ++ c.declarations.map Declaration.written
    ++ c.states.flatMap State.written ++ [.finish "scxml"]

/-- The text that spells a chart. -/
def Document.write (c : Chart) : String := Xml.print c.written

end ChartNet
