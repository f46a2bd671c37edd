import ChartNet.Chart.Basic
import ChartNet.Wire

/-!
# Empty self loops

A transition from a state to itself that does nothing, out of a state with neither entry nor exit
content, is dropped from arbiters. Other charts stay as they are.
-/

namespace ChartNet

/-- The transition leads back to `source` and does nothing on the way. -/
def Transition.isIdle (source : String) (t : Transition) : Bool :=
  t.target == source && t.body.isEmpty

/-- The state without its empty self loops; a state with content of its own keeps them, for its
content runs whenever it is left and entered. -/
def State.withoutIdle (s : State) : State :=
  if s.entry.isEmpty && s.exit.isEmpty then
    { s with transitions := s.transitions.filter (!·.isIdle s.id) }
  else s

namespace Chart

/-- The chart without empty self loops. -/
def withoutIdle (c : Chart) : Chart := { c with states := c.states.map State.withoutIdle }

/-- The chart's name is that of an arbiter. -/
def isArbiter (c : Chart) : Bool := Wire.arbiterPrefix.toList.isPrefixOf c.name.toList

/-- Drops the empty self loops of an arbiter. -/
def tidy (c : Chart) : Chart := if c.isArbiter then c.withoutIdle else c

end Chart

end ChartNet
