import ChartNet.Chart.Builder
import ChartNet.Registry

/-!
# The plain form of a chart

Every communication construct becomes an event or a send, with the name that the wire gives it; the
rest of the chart stays as it is. The fields that an emission supplies must be those of the
resource's type, each once and in any order.
-/

namespace ChartNet

namespace Registry

/-- The fields that an emission through a resource must supply. -/
def schema? (r : Registry) (kind : Emission) (resource : String) : Option (List Field) :=
  match kind with
  | .message => r.type? .publisher resource >>= Catalogue.message?
  | .request => (r.type? .client resource >>= Catalogue.service?).map (·.request)
  | .response => (r.type? .server resource >>= Catalogue.service?).map (·.response)

end Registry

/-- The first name that also occurs before. -/
def firstRepeated? : List String → List String → Option String
  | _, [] => none
  | seen, x :: xs => if seen.contains x then some x else firstRepeated? (x :: seen) xs

/-- The supplied fields are those of the schema, each once. Unknown fields are reported before a
repeated one, and that before missing ones. -/
def checkFields (automaton resource : String) (schema : List Field) (fields : List Param) :
    Except Fault Unit :=
  let known := schema.map (·.name)
  let supplied := fields.map (·.name)
  let unknown := supplied.filter (!known.contains ·)
  let missing := known.filter (!supplied.contains ·)
  if !unknown.isEmpty then .error (.unknownFields automaton resource unknown)
  else match firstRepeated? [] supplied with
    | some field => .error (.duplicateField automaton resource field)
    | none =>
      if !missing.isEmpty then .error (.missingFields automaton resource missing) else .ok ()

namespace Wire

/-- The event that a reception by an automaton stands for. -/
def reception (automaton : String) : Reception → String → Except NameFault String
  | .tick, resource => .ok (timerTick resource)
  | .message, resource => topicMessage resource
  | .request, resource => serverRequest resource
  | .response, resource => clientResponse resource automaton

/-- The event that an emission by an automaton stands for. -/
def emission (automaton : String) : Emission → String → Except NameFault String
  | .message, resource => topicMessage resource
  | .request, resource => clientRequest resource automaton
  | .response, resource => serverResponse resource

end Wire

namespace Plain

/-- The plain form of a trigger. -/
def trigger (r : Registry) : Trigger → Except Fault Trigger
  | .events names => .ok (.events names)
  | .reception kind resource => do
    let event ← usedBy r.automaton (Wire.reception r.automaton kind resource)
    return .events [event]

/-- The plain form of an emission. -/
def emission (r : Registry) (kind : Emission) (resource : String) (fields : List Param) :
    Except Fault Action := do
  let event ← usedBy r.automaton (Wire.emission r.automaton kind resource)
  match r.schema? kind resource with
  | none => .error (.unresolved r.automaton (.endpoint kind.side) resource)
  | some schema =>
    checkFields r.automaton resource schema fields
    return .send event fields

mutual

/-- The plain form of an action. -/
def action (r : Registry) : Action → Except Fault Action
  | .assign location expr => .ok (.assign location expr)
  | .send event params => .ok (.send event params)
  | .choose bs otherwise => do
    let bs ← branches r bs
    let otherwise ← block r otherwise
    return .choose bs otherwise
  | .emit kind resource fields => emission r kind resource fields

/-- The plain form of a block. -/
def block (r : Registry) : List Action → Except Fault (List Action)
  | [] => .ok []
  | a :: as => do
    let a ← action r a
    let as ← block r as
    return a :: as

/-- The plain form of a branch. -/
def branch (r : Registry) : String × List Action → Except Fault (String × List Action)
  | (condition, body) => do
    let body ← block r body
    return (condition, body)

/-- The plain form of branches. -/
def branches (r : Registry) :
    List (String × List Action) → Except Fault (List (String × List Action))
  | [] => .ok []
  | b :: bs => do
    let b ← branch r b
    let bs ← branches r bs
    return b :: bs

end

/-- The plain form of a transition. -/
def transition (r : Registry) (t : Transition) : Except Fault Transition := do
  let trigger ← trigger r t.trigger
  let body ← block r t.body
  return { t with trigger, body }

/-- The plain form of a state. -/
def state (r : Registry) (s : State) : Except Fault State := do
  let entry ← block r s.entry
  let exit ← block r s.exit
  let transitions ← s.transitions.mapM (transition r)
  return { s with entry, exit, transitions }

end Plain

namespace Chart

/-- The plain form of a chart, with the registry that its resources were looked up in. A chart that
declares nothing is its own plain form, as long as it uses nothing. -/
def toPlain (c : Chart) : Except Fault (Chart × Registry) :=
  if c.isPlain then do
    let r := Registry.empty c.name
    r.checkUses c
    return (c, r)
  else do
    let r ← Registry.ofChart c
    r.checkUses c
    let states ← c.states.mapM (Plain.state r)
    let plain ← Builder.build ⟨c.name, some c.initial, c.data, [], states⟩
    return (plain, r)

end Chart

end ChartNet
