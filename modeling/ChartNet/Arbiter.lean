import ChartNet.Chart.Builder
import ChartNet.Expr.Interpreter
import ChartNet.Interface
import ChartNet.Service

/-!
# Arbiters

The arbiter of a service stands between its clients and its server and lets one request through at a
time. It waits for a request of any client, passes it on to the server, and then waits for the
server's answer alone, which it passes on to that client.

What is passed on goes through variables of the arbiter, one for each field of the service.
-/

namespace ChartNet

namespace Arbiter

/-- The state in which requests are taken. -/
def waiting : String := "waiting"

/-- The state in which a client's request is being served. -/
def processing (client : String) : String := "processing_client_" ++ client

/-- The action that keeps a field of the event at hand. -/
def keep (f : Field) : Action := .assign f.name ("_event." ++ f.name)

/-- A transition that takes an event's fields over and sends them on with another event. -/
def relay (target trigger : String) (fields : List Field) (event : String) : Transition where
  target := target
  trigger := .events [trigger]
  guard? := none
  body := fields.map keep ++ [.send event (fields.map fun f => ⟨f.name, f.name⟩)]

/-- The fields without those whose name one of `seen` or an earlier field has. -/
def distinct : List String → List Field → List Field
  | _, [] => []
  | seen, f :: fs =>
    if seen.contains f.name then distinct seen fs else f :: distinct (f.name :: seen) fs

/-- The variable for a field, with the type's default value, which the interpreter must find to be
of the type. -/
def variableOf (interpret : Interpreter) (f : Field) : Except Fault Datum :=
  match interpret f.type.defaultExpr [] with
  | .error e => .error (.expression e)
  | .ok v =>
    if f.type.admits v then .ok ⟨f.name, some f.type.defaultExpr, some f.type.typeName⟩
    else .error (.expression ⟨f.type.defaultExpr, .type⟩)

/-- The transition that takes a client's request. -/
def requestRelay (service automaton : String) (schema : ServiceSchema) (client : String) :
    Except Fault Transition := do
  let asked ← usedBy automaton (Wire.clientRequest service client)
  let passed ← usedBy automaton (Wire.serverRequest service)
  return relay (processing client) asked schema.request passed

/-- The state that serves a client. -/
def processingState (service automaton : String) (schema : ServiceSchema) (client : String) :
    Except Fault State := do
  let answered ← usedBy automaton (Wire.serverResponse service)
  let passed ← usedBy automaton (Wire.clientResponse service client)
  return ⟨processing client, [], [], [relay waiting answered schema.response passed]⟩

end Arbiter

namespace Service

/-- The arbiter of a service. -/
def arbiter (interpret : Interpreter) (s : Service) : Except Fault Chart := do
  match s.checkContract with
  | .error cause => throw (.contract s.name cause)
  | .ok () => pure ()
  let type := s.type?.getD ""
  let server := s.server?.getD ""
  match Catalogue.service? type with
  | none => throw (.unknownType server s.name type)
  | some schema =>
    let name ← usedBy server (Wire.arbiterName s.name)
    let fields := Arbiter.distinct [] (schema.request ++ schema.response)
    let data ← fields.mapM (Arbiter.variableOf interpret)
    let relays ← s.clients.mapM (Arbiter.requestRelay s.name name schema)
    let serving ← s.clients.mapM (Arbiter.processingState s.name name schema)
    let first : State := ⟨Arbiter.waiting, [], [], relays⟩
    Builder.build ⟨name, some Arbiter.waiting, data, [], first :: serving⟩

end Service

end ChartNet
