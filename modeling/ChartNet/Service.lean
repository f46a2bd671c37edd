import ChartNet.Fault

/-!
# Services

The parties of a service register one after the other; the first one fixes the type. A service has
at most one server, no client twice, and nobody on both sides.

A registration is a step on the service that may fail. What a failing step has already changed stays
changed, so that it is a statement about services, and not a rule, that a failure changes nothing.
-/

namespace ChartNet

/-- A service with its parties so far. -/
structure Service where
  /-- the name, as the first party spells it -/
  name : String
  /-- the type that the first party has named -/
  type? : Option String
  /-- the automaton that serves -/
  server? : Option String
  /-- the automata that ask, in the order of registration -/
  clients : List String
deriving DecidableEq, Repr

/-- A step on a service that may fail. -/
abbrev Registration := ExceptT ContractFault (StateM Service)

namespace Service

/-- A service that nobody has registered for. -/
def named (name : String) : Service := ⟨name, none, none, []⟩

/-- Fixes the type, or checks that it is the one that was fixed. -/
def agree (type : String) : Registration Unit := do
  let s ← get
  match s.type? with
  | none => set { s with type? := some type }
  | some expected => if expected = type then pure () else throw (.typeMismatch expected type)

/-- Registers the server. -/
def addServer (type automaton : String) : Registration Unit := do
  agree type
  let s ← get
  match s.server? with
  | some first => throw (.multipleServers first automaton)
  | none =>
    if s.clients.contains automaton then throw (.clientAndServer automaton)
    else set { s with server? := some automaton }

/-- Registers a client. -/
def addClient (type automaton : String) : Registration Unit := do
  agree type
  let s ← get
  if s.clients.contains automaton then throw (.duplicateClient automaton)
  else if s.server? = some automaton then throw (.clientAndServer automaton)
  else set { s with clients := s.clients ++ [automaton] }

/-- What a step does to a service: how it ends, and the service after it. -/
def after (s : Service) (step : Registration Unit) : Except ContractFault Unit × Service :=
  step.run.run s

/-- Type, server and at least one client are there. -/
def checkContract (s : Service) : Except ContractFault Unit :=
  if s.type?.isNone then .error .unset
  else if s.server?.isNone then .error .noServer
  else if s.clients.isEmpty then .error .noClients
  else .ok ()

end Service

end ChartNet
