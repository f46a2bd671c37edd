import ChartNet.Chart.Basic
import ChartNet.Fault
import ChartNet.Interface

/-!
# Registries

The declarations of one chart, checked one by one in their order: no resource is declared twice with
one role, rates are positive, names have a flat form, types are known, and no service is both served
and asked for.
-/

namespace ChartNet

/-- A timer and how often it ticks in a second. -/
structure Timer where
  /-- the name of the timer -/
  name : String
  /-- its ticks per second -/
  rate : Float

/-- A side of a topic or service. -/
structure Registered where
  /-- the side that the chart is on -/
  side : Endpoint
  /-- the name of the topic or service, as it is spelled -/
  name : String
  /-- the type of what goes through it -/
  type : String
deriving DecidableEq, Repr

/-- The checked declarations of a chart. -/
structure Registry where
  /-- the chart that declares them -/
  automaton : String
  /-- its timers, in the order of declaration -/
  timers : List Timer
  /-- its sides of topics and services, in the order of declaration -/
  endpoints : List Registered

namespace Registry

/-- No declarations. -/
def empty (automaton : String) : Registry := ⟨automaton, [], []⟩

/-- The type of a topic or service that is declared with the given side. -/
def type? (r : Registry) (side : Endpoint) (resource : String) : Option String :=
  (r.endpoints.find? fun e => e.side == side && e.name == resource).map (·.type)

/-- The resource is declared with the given role. -/
def contains (r : Registry) : Role → String → Bool
  | .timer, resource => r.timers.any (·.name == resource)
  | .endpoint side, resource => (r.type? side resource).isSome

/-- The type that is declared for a resource; timers have none. -/
def roleType? (r : Registry) : Role → String → Option String
  | .timer, _ => none
  | .endpoint side, resource => r.type? side resource

/-- Fails unless the resource is declared with the given role. -/
def require (r : Registry) (role : Role) (resource : String) : Except Fault Unit :=
  if r.contains role resource then .ok () else .error (.unresolved r.automaton role resource)

/-- Every resource that the chart uses is declared with the role that the use needs. -/
def checkUses (r : Registry) (c : Chart) : Except Fault Unit :=
  c.uses.forM fun (role, resource) => r.require role resource

/-- Names and types of the resources on one side, in the order of their declarations. -/
def onSide (r : Registry) (side : Endpoint) : List (String × String) :=
  (r.endpoints.filter (·.side == side)).map fun e => (e.name, e.type)

/-- Nothing is declared. -/
def isEmpty (r : Registry) : Bool := r.timers.isEmpty && r.endpoints.isEmpty

/-- A type is known for the side: a message type for topics, a service type for services. -/
def knowsType : Endpoint → String → Bool
  | .publisher, type | .subscriber, type => (Catalogue.message? type).isSome
  | .server, type | .client, type => (Catalogue.service? type).isSome

/-- The other side of a service, which the same chart must not be on. -/
def rival? : Endpoint → Option Endpoint
  | .server => some .client
  | .client => some .server
  | _ => none

/-- Adds a side of a topic or service. -/
def addEndpoint (r : Registry) (side : Endpoint) (name type : String) : Except Fault Registry := do
  let _ ← usedBy r.automaton (Wire.flatName name)
  if !knowsType side type then .error (.unknownType r.automaton name type)
  else if (rival? side).any fun other => (r.type? other name).isSome then
    .error (.contract name (.clientAndServer r.automaton))
  else .ok { r with endpoints := r.endpoints ++ [⟨side, name, type⟩] }

/-- Adds a declaration. -/
def add (r : Registry) (d : Declaration) : Except Fault Registry :=
  if r.contains d.role d.resource then
    .error (.duplicateDeclaration r.automaton d.role d.resource)
  else match d with
    | .timer name rate =>
      if rate.isFinite && 0.0 < rate then .ok { r with timers := r.timers ++ [⟨name, rate⟩] }
      else .error (.invalidRate r.automaton name rate)
    | .endpoint side name type => r.addEndpoint side name type

/-- The registry of a chart. -/
def ofChart (c : Chart) : Except Fault Registry := c.declarations.foldlM add (empty c.name)

end Registry

end ChartNet
