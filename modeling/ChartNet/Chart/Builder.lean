import ChartNet.Fault

/-!
# Building charts

A chart is put together part by part and checked at the end. Unless an initial state is named, the
first state is the initial one.
-/

namespace ChartNet

/-- The parts of a chart that is being built. -/
structure Builder where
  /-- the name of the automaton -/
  name : String
  /-- the initial state, if one was named -/
  initial? : Option String
  /-- the variables so far -/
  data : List Datum
  /-- the declarations so far -/
  declarations : List Declaration
  /-- the states so far -/
  states : List State

namespace Builder

/-- A chart with a name and nothing else. -/
def named (name : String) : Builder := ⟨name, none, [], [], []⟩

/-- Names the initial state. -/
def initial (b : Builder) (id : String) : Builder := { b with initial? := some id }

/-- Adds a variable. -/
def datum (b : Builder) (d : Datum) : Builder := { b with data := b.data ++ [d] }

/-- Adds a declaration. -/
def declare (b : Builder) (d : Declaration) : Builder :=
  { b with declarations := b.declarations ++ [d] }

/-- Adds a state. -/
def state (b : Builder) (s : State) : Builder := { b with states := b.states ++ [s] }

/-- Adds several states. -/
def addStates (b : Builder) (ss : List State) : Builder := { b with states := b.states ++ ss }

/-- The chart as it stands, not checked. -/
def draft (b : Builder) : Chart where
  name := b.name
  initial := (b.initial?.or (b.states.head?.map (·.id))).getD ""
  data := b.data
  declarations := b.declarations
  states := b.states

/-- The chart, if it is well formed. -/
def build (b : Builder) : Except Fault Chart :=
  match b.draft.check with
  | .ok () => .ok b.draft
  | .error cause => .error (.malformed b.name cause)

end Builder

/-- The parts of a finished chart. -/
def Chart.toBuilder (c : Chart) : Builder :=
  ⟨c.name, some c.initial, c.data, c.declarations, c.states⟩

end ChartNet
