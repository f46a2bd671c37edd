import ChartNet.Chart.Basic
import ChartNet.Text.Blank

/-!
# Well-formed charts

`Chart.check` finds the first fault of a chart. Faults of the chart as a whole come first (its name,
the identifiers of its states, its initial state, its data, its declarations), then those of each
state: its entry and exit content, and its transitions.
-/

namespace ChartNet

/-- What can be wrong with a chart by itself. -/
inductive ChartFault where
  /-- the chart has no name -/
  | emptyName
  /-- the name has a character that it may not have -/
  | invalidName (name : String)
  /-- there is no state to be in -/
  | noStates
  /-- the initial state is none of the states -/
  | missingInitial (id : String)
  /-- a state has no identifier -/
  | emptyStateId
  /-- two states have the same identifier -/
  | duplicateState (id : String)
  /-- a transition leads to none of the states -/
  | danglingTarget (state target : String)
  /-- a variable has no name -/
  | emptyData
  /-- two variables have the same name -/
  | duplicateData (id : String)
  /-- an event has no name -/
  | emptyEvent
  /-- a choice has no branch -/
  | emptyChoice
  /-- a condition is blank -/
  | emptyCondition
  /-- a resource has no name -/
  | emptyResource
deriving DecidableEq, Repr

/-- The wording of a chart's fault. -/
def ChartFault.message : ChartFault → String
  | emptyName => "statechart name is empty"
  | invalidName name => "statechart name `" ++ name ++ "` contains whitespace or `/`"
  | noStates => "statechart has no states"
  | missingInitial id => "initial state `" ++ id ++ "` does not exist"
  | emptyStateId => "state with empty id"
  | duplicateState id => "state `" ++ id ++ "` defined more than once"
  | danglingTarget state target =>
    "transition from state `" ++ state ++ "` targets unknown state `" ++ target ++ "`"
  | emptyData => "data element with empty name"
  | duplicateData id => "data element `" ++ id ++ "` defined more than once"
  | emptyEvent => "empty event name"
  | emptyChoice => "conditional with no branches"
  | emptyCondition => "empty condition"
  | emptyResource => "ROS construct with empty resource name"

/-- The outcome of a check. -/
abbrev Check := Except ChartFault Unit

/-- Fails with the fault unless the condition holds. -/
def ensure (holds : Bool) (fault : ChartFault) : Check :=
  if holds then .ok () else .error fault

/-- The character may not occur in a chart's name, which ends up in events and file names. -/
def isForbiddenInName (c : Char) : Bool := Text.isBlank c || c = '/' || c = '\\'

/-- No identifier is empty, and none is the same as one before it or one of those `seen`. -/
def checkIds (empty : ChartFault) (duplicate : String → ChartFault) :
    List String → List String → Check
  | _, [] => .ok ()
  | seen, id :: ids =>
    if id.isEmpty then .error empty
    else if seen.contains id then .error (duplicate id)
    else checkIds empty duplicate (id :: seen) ids

mutual

/-- The fault of an action, the first one in the order of the text. -/
def Action.check : Action → Check
  | .assign location _ => ensure (!location.isEmpty) .emptyData
  | .send event _ => ensure (!event.isEmpty) .emptyEvent
  | .choose branches otherwise => do
    ensure (!branches.isEmpty) .emptyChoice
    Branches.check branches
    Block.check otherwise
  | .emit _ resource _ => ensure (!resource.isEmpty) .emptyResource

/-- The first fault of a block. -/
def Block.check : List Action → Check
  | [] => .ok ()
  | a :: as => do
    Action.check a
    Block.check as

/-- The first fault of a branch: a blank condition, or one of its body. -/
def Branch.check : String × List Action → Check
  | (condition, body) => do
    ensure (!Text.allBlank condition) .emptyCondition
    Block.check body

/-- The first fault of branches. -/
def Branches.check : List (String × List Action) → Check
  | [] => .ok ()
  | b :: bs => do
    Branch.check b
    Branches.check bs

end

/-- The fault of a trigger. -/
def Trigger.check : Trigger → Check
  | events names => ensure (names.all (!·.isEmpty)) .emptyEvent
  | reception _ resource => ensure (!resource.isEmpty) .emptyResource

/-- The first fault of a transition out of `source`, in a chart with the given states. -/
def Transition.check (source : String) (ids : List String) (t : Transition) : Check := do
  ensure (ids.contains t.target) (.danglingTarget source t.target)
  t.trigger.check
  ensure (!t.guard?.any Text.allBlank) .emptyCondition
  Block.check t.body

/-- The first fault of a state's content. -/
def State.check (ids : List String) (s : State) : Check := do
  Block.check (s.entry ++ s.exit)
  s.transitions.forM (Transition.check s.id ids)

/-- The first fault of a chart. -/
def Chart.check (c : Chart) : Check := do
  let ids := c.states.map (·.id)
  ensure (!c.name.isEmpty) .emptyName
  ensure (!c.name.toList.any isForbiddenInName) (.invalidName c.name)
  ensure (!c.states.isEmpty) .noStates
  checkIds .emptyStateId .duplicateState [] ids
  ensure (ids.contains c.initial) (.missingInitial c.initial)
  checkIds .emptyData .duplicateData [] (c.data.map (·.id))
  ensure (c.declarations.all (!·.resource.isEmpty)) .emptyResource
  c.states.forM (State.check ids)

end ChartNet
