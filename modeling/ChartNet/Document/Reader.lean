import ChartNet.Chart.Builder
import ChartNet.Document.Frame
import ChartNet.Text.Blank
import ChartNet.Xml.Scanner

/-!
# Reading documents

A reader takes the tags of a document one after the other. A start tag is accepted or refused by
what it is and by the element around it, and by its attributes; nothing is put off to a later pass.
At the end, the chart that was read is checked like any other.

* `Reader.enter`, `Reader.leave`: one tag.
* `Reader.step`: one event.
* `Document.read`: a whole text.
-/

namespace ChartNet

/-- What has been read of a document. -/
structure Reader where
  /-- the name of the chart, once the root was opened -/
  name? : Option String
  /-- the initial state, if the root names one -/
  initial? : Option String
  /-- the variables so far -/
  data : List Datum
  /-- the declarations so far -/
  declarations : List Declaration
  /-- the states so far -/
  states : List State
  /-- the open elements, innermost first -/
  stack : List Frame

namespace Reader

/-- Nothing read yet. -/
def start : Reader := ⟨none, none, [], [], [], []⟩

/-! ### Attributes -/

/-- The attributes of a tag, in order: each is wanted, and its entities are replaced. The fuel is
the number of characters left. -/
def attributesFrom (wanted : List String) :
    Nat → List (String × String) → List Char → Except Cause (List (String × String))
  | 0, found, _ => .ok found
  | fuel + 1, found, cs =>
    match Xml.nextAttribute (found.map (·.1)) cs with
    | .error f => .error (.attributes f)
    | .ok none => .ok found
    | .ok (some a) =>
      if !wanted.contains a.key then .error (.document (.unknownAttribute a.key))
      else match Xml.unescape a.value with
        | .error f => .error (.entity f)
        | .ok value => attributesFrom wanted fuel (found ++ [(a.key, value)]) a.rest

/-- The attributes of a tag: all the required ones, and otherwise only optional ones. -/
def attributes (tag : Xml.Tag) (required optional : List String) :
    Except Cause (List (String × String)) := do
  let cs := tag.attributes
  let found ← attributesFrom (required ++ optional) (cs.length + 1) [] cs
  match required.find? fun key => (found.lookup key).isNone with
  | some key => .error (.document (.missingAttribute key))
  | none => return found

/-- The value of a required attribute. -/
def value (found : List (String × String)) (key : String) : String := (found.lookup key).getD ""

/-! ### Start tags -/

/-- The tag has no place here. -/
def unexpected {α : Type} (tag : Xml.Tag) : Except Cause α :=
  .error (.document (.unexpectedStart tag.name))

/-- A timer. Blanks around the rate do not count. -/
def openTimer (tag : Xml.Tag) : Except Cause Frame := do
  let found ← attributes tag ["name", "rate_hz"] []
  let text := value found "rate_hz"
  match Decimal.read? (Text.trim text) with
  | some rate => return .declaration (.timer (value found "name") rate)
  | none => .error (.document (.invalidValue "rate_hz" text))

/-- A side of a topic or service. It may have a name of its own, which is not kept. -/
def openEndpoint (tag : Xml.Tag) (side : Endpoint) : Except Cause Frame := do
  let found ← attributes tag [side.key, "type"] ["name"]
  return .declaration (.endpoint side (value found side.key) (value found "type"))

/-- A transition on events, which are separated by blanks. -/
def openTransition (tag : Xml.Tag) : Except Cause Frame := do
  let found ← attributes tag ["target"] ["event", "cond"]
  let events := ((found.lookup "event").map Text.words).getD []
  return .transition "transition" ⟨value found "target", .events events, found.lookup "cond", []⟩

/-- A transition on a reception, as an element of the given name. -/
def openReception (tag : Xml.Tag) (name : String) (kind : Reception) : Except Cause Frame := do
  let found ← attributes tag [kind.key, "target"] ["cond"]
  let trigger := .reception kind (value found kind.key)
  return .transition name ⟨value found "target", trigger, found.lookup "cond", []⟩

/-- An emission, as an element of the given name. -/
def openEmission (tag : Xml.Tag) (name : String) (kind : Emission) : Except Cause Frame := do
  let found ← attributes tag [kind.key] []
  return .action name (.emit kind (value found kind.key) [])

/-- A parameter or field, as an element of the given name. -/
def openParam (tag : Xml.Tag) (name : String) : Except Cause Frame := do
  let found ← attributes tag ["name", "expr"] []
  return .param name ⟨value found "name", value found "expr"⟩

/-- A variable. -/
def openDatum (tag : Xml.Tag) : Except Cause Frame := do
  let found ← attributes tag ["id"] ["expr", "type"]
  return .datum ⟨value found "id", found.lookup "expr", found.lookup "type"⟩

/-- A tag directly in the root. -/
def openInRoot (tag : Xml.Tag) : Except Cause Frame :=
  match tag.name with
  | "datamodel" => .ok .dataModel
  | "ros_time_rate" => openTimer tag
  | "ros_topic_publisher" => openEndpoint tag .publisher
  | "ros_topic_subscriber" => openEndpoint tag .subscriber
  | "ros_service_server" => openEndpoint tag .server
  | "ros_service_client" => openEndpoint tag .client
  | "state" => do
    let found ← attributes tag ["id"] []
    return .state ⟨value found "id", [], [], []⟩
  | _ => unexpected tag

/-- A tag directly in a state. -/
def openInState (tag : Xml.Tag) : Except Cause Frame :=
  match tag.name with
  | "onentry" => .ok (.entry [])
  | "onexit" => .ok (.exit [])
  | "transition" => openTransition tag
  | "ros_rate_callback" => openReception tag "ros_rate_callback" .tick
  | "ros_topic_callback" => openReception tag "ros_topic_callback" .message
  | "ros_service_handle_request" => openReception tag "ros_service_handle_request" .request
  | "ros_service_handle_response" => openReception tag "ros_service_handle_response" .response
  | _ => unexpected tag

/-- An action. -/
def openAction (tag : Xml.Tag) : Except Cause Frame :=
  match tag.name with
  | "assign" => do
    let found ← attributes tag ["location", "expr"] []
    return .action "assign" (.assign (value found "location") (value found "expr"))
  | "send" => do
    let found ← attributes tag ["event"] []
    return .action "send" (.send (value found "event") [])
  | "ros_topic_publish" => openEmission tag "ros_topic_publish" .message
  | "ros_service_send_request" => openEmission tag "ros_service_send_request" .request
  | "ros_service_send_response" => openEmission tag "ros_service_send_response" .response
  | "if" => do
    let found ← attributes tag ["cond"] []
    return .choice [(value found "cond", [])] none
  | _ => unexpected tag

/-- A tag in a choice whose last block has not begun: a mark or an action. -/
def openInChoice (tag : Xml.Tag) : Except Cause Frame :=
  match tag.name with
  | "elseif" => do
    let found ← attributes tag ["cond"] []
    return .elseIf (value found "cond")
  | "else" => do
    let _ ← attributes tag [] []
    return .elseMark
  | _ => openAction tag

/-- A tag in an action. Which elements the action has inside is told by the name of its own. -/
def openInAction (tag : Xml.Tag) (name : String) : Except Cause Frame :=
  match name with
  | "send" => if tag.name = "param" then openParam tag "param" else unexpected tag
  | "ros_topic_publish" | "ros_service_send_request" | "ros_service_send_response" =>
    if tag.name = "field" then openParam tag "field" else unexpected tag
  | _ => unexpected tag

/-- A tag inside the given element. -/
def openInside (tag : Xml.Tag) : Frame → Except Cause Frame
  | .root => openInRoot tag
  | .dataModel => if tag.name = "data" then openDatum tag else unexpected tag
  | .state _ => openInState tag
  | .entry _ | .exit _ | .transition .. | .choice _ (some _) => openAction tag
  | .choice _ none => openInChoice tag
  | .action name _ => openInAction tag name
  | _ => unexpected tag

/-- A start tag: the frame of its element. The root gives the chart its name; there is one root. -/
def enter (r : Reader) (tag : Xml.Tag) : Except Cause (Frame × Reader) :=
  match r.stack with
  | parent :: _ => do
    let frame ← openInside tag parent
    return (frame, r)
  | [] =>
    if tag.name = "scxml" && r.name?.isNone then do
      let found ← attributes tag ["name"] ["initial", "version", "model_src", "xmlns", "datamodel"]
      return (.root,
        { r with name? := some (value found "name"), initial? := found.lookup "initial" })
    else unexpected tag

/-! ### End tags -/

/-- The end of an element, which is no longer among the open ones. -/
def leave (r : Reader) (frame : Frame) : Except Cause Reader :=
  match frame with
  | .root | .dataModel => .ok r
  | .datum d => .ok { r with data := r.data ++ [d] }
  | .declaration d => .ok { r with declarations := r.declarations ++ [d] }
  | .state s => .ok { r with states := r.states ++ [s] }
  | frame =>
    match r.stack with
    | parent :: rest =>
      match parent.absorb frame with
      | .ok parent => .ok { r with stack := parent :: rest }
      | .error f => .error (.document f)
    | [] => .error (.document (.unexpectedEnd frame.tag))

/-! ### Events -/

/-- The circumstance of a tag. -/
def atTag (name : String) (offset : Nat) : String :=
  "failed to parse `" ++ name ++ "` at byte " ++ offset.repr

/-- Says in which circumstance a cause arose. -/
def causeIn {α : Type} (circumstance : String) : Except Cause α → Except Failure α
  | .ok a => .ok a
  | .error c => .error (c.within circumstance)

/-- One event at an offset. -/
def step (r : Reader) (offset : Nat) : Xml.Event → Except Failure Reader
  | .other => .ok r
  | .start tag => causeIn (atTag tag.name offset) do
    let (frame, r) ← r.enter tag
    return { r with stack := frame :: r.stack }
  | .empty tag => causeIn (atTag tag.name offset) do
    let (frame, r) ← r.enter tag
    r.leave frame
  | .finish name =>
    match r.stack with
    | frame :: rest =>
      if frame.tag = name then causeIn (atTag name offset) ({ r with stack := rest }.leave frame)
      else .error ((Cause.document (.unexpectedEnd name)).within ("at byte " ++ offset.repr))
    | [] => .error ((Cause.document (.unexpectedEnd name)).within ("at byte " ++ offset.repr))

/-- Events one after the other. -/
def run (r : Reader) : List (Nat × Xml.Event) → Except Failure Reader
  | [] => .ok r
  | (offset, e) :: es => do
    let r ← r.step offset e
    r.run es

/-- The end of the document: all elements are closed, and the chart is well formed. -/
def finish (r : Reader) : Except Failure Chart :=
  if !r.stack.isEmpty then .error (Cause.document .unclosedTags).alone
  else match r.name? with
    | none => .error (Cause.document .missingRoot).alone
    | some name =>
      match Builder.build ⟨name, r.initial?, r.data, r.declarations, r.states⟩ with
      | .ok c => .ok c
      | .error f => .error ((Cause.network f).within ("invalid statechart `" ++ name ++ "`"))

end Reader

namespace Document

/-- Reads the chart that a text spells. A tag that the reader refuses comes before a fault of the
markup after it. -/
def read (text : String) : Except Failure Chart := do
  let pieces := Xml.scan text
  let r ← Reader.start.run pieces.events
  match pieces.fault? with
  | some (offset, f) => .error ((Cause.markup f).within ("malformed XML at byte " ++ offset.repr))
  | none => r.finish

end Document

end ChartNet
