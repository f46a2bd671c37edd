import ChartNet.Arbiter
import ChartNet.Chart.Cleanup
import ChartNet.Plain

/-!
# Networks

A network is a list of charts. Compiling it gives the plain forms of the charts, an arbiter for each
service that they use, and the timers that they declare.

The charts are taken in order and the first fault stops the compilation; arbiters come after all
charts, in the order in which their services were first registered. A chart registers the services
that it serves before those that it asks for.
-/

namespace ChartNet

/-- What has been gathered from the charts so far. Services are kept under the flat form of their
name. -/
structure Network where
  /-- the plain forms so far, and later the arbiters -/
  charts : List Chart
  /-- the timers of all charts -/
  timers : List Timer
  /-- the services, in the order of the first registration -/
  services : List (String × Service)

/-- The outcome of a compilation. -/
structure Compiled where
  /-- the plain charts, and then the arbiters -/
  charts : List Chart
  /-- the timers of all charts -/
  timers : List Timer

namespace Network

/-- Nothing gathered yet. -/
def empty : Network := ⟨[], [], []⟩

/-- A chart of this name is there already. -/
def hasChart (n : Network) (name : String) : Bool := n.charts.any (·.name == name)

/-- Adds timers, none of which may have the name of one before it. -/
def addTimers : List Timer → List Timer → Except Fault (List Timer)
  | known, [] => .ok known
  | known, t :: ts =>
    if known.any (·.name == t.name) then .error (.duplicateTimer t.name)
    else addTimers (known ++ [t]) ts

/-- A registration's fault as one of the service's. -/
def registered (s : Service) (step : Registration Unit) : Except Fault Service :=
  match s.after step with
  | (.ok (), s') => .ok s'
  | (.error cause, _) => .error (.contract s.name cause)

/-- Registers with the service under the given flat name, which gets the name used here if it is
new. -/
def enlist (flat name : String) (step : Registration Unit) :
    List (String × Service) → Except Fault (List (String × Service))
  | [] => do
    let s ← registered (.named name) step
    return [(flat, s)]
  | (key, s) :: rest =>
    if key = flat then do
      let s ← registered s step
      return (key, s) :: rest
    else do
      let rest ← enlist flat name step rest
      return (key, s) :: rest

/-- Registers an automaton with the services of one of its sides. -/
def enlistAll (automaton : String) (step : String → Registration Unit)
    (services : List (String × Service)) (declared : List (String × String)) :
    Except Fault (List (String × Service)) :=
  declared.foldlM (fun services (name, type) => do
    let flat ← usedBy automaton (Wire.flatName name)
    enlist flat name (step type) services) services

/-- Adds the plain form of a chart and what it declares. -/
def addPlain (n : Network) (c : Chart) (r : Registry) : Except Fault Network := do
  if n.hasChart c.name then throw (.duplicateAutomaton c.name)
  let timers ← addTimers n.timers r.timers
  let services ← enlistAll c.name (Service.addServer · c.name) n.services (r.onSide .server)
  let services ← enlistAll c.name (Service.addClient · c.name) services (r.onSide .client)
  return ⟨n.charts ++ [c], timers, services⟩

/-- Adds a chart. -/
def add (n : Network) (c : Chart) : Except Fault Network := do
  let (plain, r) ← c.toPlain
  n.addPlain plain r

/-- Adds the arbiter of a service to the charts. -/
def addArbiter (interpret : Interpreter) (charts : List Chart) (s : Service) :
    Except Fault (List Chart) := do
  let c ← s.arbiter interpret
  if charts.any (·.name == c.name) then throw (.duplicateAutomaton c.name)
  return charts ++ [c]

/-- Compiles a network. -/
def compile (interpret : Interpreter) (charts : List Chart) : Except Fault Compiled := do
  let n ← charts.foldlM add empty
  let charts ← (n.services.map (·.2)).foldlM (addArbiter interpret) n.charts
  return ⟨charts.map Chart.tidy, n.timers⟩

end Network

end ChartNet
