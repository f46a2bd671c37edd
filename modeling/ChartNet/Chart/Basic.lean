/-!
# Statecharts

A chart has data, declarations of the resources that it uses, and states with transitions. What a
chart does is a list of actions; a chart reacts to events, and to what its resources receive.

* `Reception` and `Emission` are the communication constructs: what a resource can bring in and what
  can be sent through it. Each needs a declaration with a certain `Role`.
* A chart without declarations is *plain*: it only knows events and sends.
* Actions nest through `Action.choose`; `Action.leaves` lists all that are not choices, in the order
  of the text.
-/

namespace ChartNet

/-- The sides of topics and services that a chart can be on. -/
inductive Endpoint where
  /-- sends messages to a topic -/
  | publisher
  /-- gets the messages of a topic -/
  | subscriber
  /-- answers the requests to a service -/
  | server
  /-- asks a service -/
  | client
deriving DecidableEq, Repr

/-- How a chart takes part in a resource. -/
inductive Role where
  /-- waits for the ticks of a timer -/
  | timer
  /-- is on a side of a topic or service -/
  | endpoint (e : Endpoint)
deriving DecidableEq, Repr

/-- The wording of a role. -/
def Role.text : Role → String
  | timer => "timer"
  | endpoint .publisher => "topic publisher"
  | endpoint .subscriber => "topic subscriber"
  | endpoint .server => "service server"
  | endpoint .client => "service client"

/-- A variable of a chart. -/
structure Datum where
  /-- the name of the variable -/
  id : String
  /-- the expression of its first value -/
  expr? : Option String
  /-- the name of its type -/
  type? : Option String
deriving DecidableEq, Repr

/-- A resource that a chart takes part in. -/
inductive Declaration where
  /-- a timer, with its rate in ticks per second -/
  | timer (name : String) (rate : Float)
  /-- a side of a topic or service, with the type of what goes through it -/
  | endpoint (side : Endpoint) (name : String) (type : String)
deriving BEq

namespace Declaration

/-- The role that is declared. -/
def role : Declaration → Role
  | timer .. => .timer
  | endpoint side .. => .endpoint side

/-- The name of the resource. -/
def resource : Declaration → String
  | timer name _ => name
  | endpoint _ name _ => name

end Declaration

/-- What a resource can bring in. -/
inductive Reception where
  /-- a timer's tick -/
  | tick
  /-- a message of a topic -/
  | message
  /-- a request to a service -/
  | request
  /-- the answer of a service -/
  | response
deriving DecidableEq, Repr

/-- The role that a reception needs. -/
def Reception.role : Reception → Role
  | tick => .timer
  | message => .endpoint .subscriber
  | request => .endpoint .server
  | response => .endpoint .client

/-- What can be sent through a resource. -/
inductive Emission where
  /-- a message to a topic -/
  | message
  /-- a request to a service -/
  | request
  /-- the answer of a service -/
  | response
deriving DecidableEq, Repr

/-- The side that an emission needs to be on. -/
def Emission.side : Emission → Endpoint
  | message => .publisher
  | request => .client
  | response => .server

/-- What makes a transition fire. -/
inductive Trigger where
  /-- any of the events; without events, nothing needs to happen -/
  | events (names : List String)
  /-- something that a resource brings in -/
  | reception (kind : Reception) (resource : String)
deriving DecidableEq, Repr

/-- The trigger is a communication construct. -/
def Trigger.communicates : Trigger → Bool
  | events _ => false
  | reception .. => true

/-- A named expression that goes along with an event. -/
structure Param where
  /-- the name under which the value goes along -/
  name : String
  /-- the expression of the value -/
  expr : String
deriving DecidableEq, Repr

/-- What a chart does. -/
inductive Action where
  /-- gives a variable a value -/
  | assign (location expr : String)
  /-- sends an event -/
  | send (event : String) (params : List Param)
  /-- the first branch whose condition holds, or else the last block -/
  | choose (branches : List (String × List Action)) (otherwise : List Action)
  /-- sends through a resource -/
  | emit (kind : Emission) (resource : String) (fields : List Param)

/-- Actions that are run one after the other. -/
abbrev Block := List Action

/-! ### Equality of actions -/

mutual

/-- Equality of two actions. -/
def Action.same : Action → Action → Bool
  | .assign l e, .assign l' e' => l == l' && e == e'
  | .send e ps, .send e' ps' => e == e' && ps == ps'
  | .choose bs o, .choose bs' o' => Branches.same bs bs' && Block.same o o'
  | .emit k r fs, .emit k' r' fs' => k == k' && r == r' && fs == fs'
  | _, _ => false

/-- Equality of two blocks. -/
def Block.same : List Action → List Action → Bool
  | [], [] => true
  | a :: as, b :: bs => Action.same a b && Block.same as bs
  | _, _ => false

/-- Equality of two branches. -/
def Branch.same : String × List Action → String × List Action → Bool
  | (c, b), (c', b') => c == c' && Block.same b b'

/-- Equality of two lists of branches. -/
def Branches.same : List (String × List Action) → List (String × List Action) → Bool
  | [], [] => true
  | a :: as, b :: bs => Branch.same a b && Branches.same as bs
  | _, _ => false

end

instance : BEq Action := ⟨Action.same⟩

/-! ### The actions inside an action -/

mutual

/-- The actions that are not choices, in the order of the text. -/
def Action.leaves : Action → List Action
  | .choose branches otherwise => Branches.leaves branches ++ Block.leaves otherwise
  | a => [a]

/-- The leaves of a block. -/
def Block.leaves : List Action → List Action
  | [] => []
  | a :: as => Action.leaves a ++ Block.leaves as

/-- The leaves of a branch. -/
def Branch.leaves : String × List Action → List Action
  | (_, body) => Block.leaves body

/-- The leaves of branches. -/
def Branches.leaves : List (String × List Action) → List Action
  | [] => []
  | b :: bs => Branch.leaves b ++ Branches.leaves bs

end

/-- The resource that an action by itself, not by its parts, sends through. -/
def Action.use? : Action → Option (Role × String)
  | .emit kind resource _ => some (.endpoint kind.side, resource)
  | _ => none

/-- The resources that a block sends through at any depth, in the order of the text. -/
def Block.uses (b : Block) : List (Role × String) := (Block.leaves b).filterMap Action.use?

/-- Some action of the block, at any depth, is a communication construct. -/
def Block.communicates (b : Block) : Bool := !(Block.uses b).isEmpty

/-- The resource that a trigger waits for. -/
def Trigger.uses : Trigger → List (Role × String)
  | events _ => []
  | reception kind resource => [(kind.role, resource)]

/-! ### Charts -/

/-- A way from one state to another. -/
structure Transition where
  /-- the identifier of the state that it leads to -/
  target : String
  /-- what makes it fire -/
  trigger : Trigger
  /-- the condition that has to hold besides -/
  guard? : Option String
  /-- what is done on the way -/
  body : Block
deriving BEq

/-- The resources of a transition, in the order of the text. -/
def Transition.uses (t : Transition) : List (Role × String) := t.trigger.uses ++ Block.uses t.body

/-- A state; of its transitions, an earlier one goes before a later one. -/
structure State where
  /-- the identifier by which transitions name it -/
  id : String
  /-- what is done on entering -/
  entry : Block
  /-- what is done on leaving -/
  exit : Block
  /-- the ways out, the first that fires being taken -/
  transitions : List Transition
deriving BEq

/-- The resources of a state: first those of its own content, then those of its transitions. -/
def State.uses (s : State) : List (Role × String) :=
  Block.uses (s.entry ++ s.exit) ++ s.transitions.flatMap Transition.uses

/-- A statechart. -/
structure Chart where
  /-- the name of the automaton -/
  name : String
  /-- the identifier of the state that it starts in -/
  initial : String
  /-- its variables -/
  data : List Datum
  /-- the resources that it takes part in -/
  declarations : List Declaration
  /-- its states -/
  states : List State
deriving BEq

namespace Chart

/-- The state with the given identifier. -/
def state? (c : Chart) (id : String) : Option State := c.states.find? (·.id == id)

/-- The chart declares no resources. -/
def isPlain (c : Chart) : Bool := c.declarations.isEmpty

/-- The resources that the chart uses, in the order of the text. -/
def uses (c : Chart) : List (Role × String) := c.states.flatMap State.uses

end Chart

end ChartNet
