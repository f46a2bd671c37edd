import ChartNet.Text.Blank

/-!
# Names on the wire

Automata synchronise on event names that are compared letter by letter, so a resource name is first
brought to a *flat* form (`flatName`) and then put into one fixed pattern per kind of event.

A timer's event takes the timer's name as it stands; every other pattern takes the flat name and
fails where the name has none.
-/

namespace ChartNet

/-- Why a resource name has no flat form. -/
inductive NameFault where
  /-- nothing is left once the leading slash is gone -/
  | empty
  /-- the name, without its leading slash, holds a blank -/
  | blank (name : String)
deriving DecidableEq, Repr

/-- The wording of a name fault. -/
def NameFault.message : NameFault → String
  | .empty => "interface name is empty"
  | .blank name => "interface name `" ++ name ++ "` contains whitespace"

namespace Wire

/-- A name without its leading slash; only one slash is dropped. -/
def bareName (name : String) : List Char :=
  match name.toList with
  | '/' :: cs => cs
  | cs => cs

/-- A slash inside a name becomes two underscores, any other character stays. -/
def flatten (cs : List Char) : List Char :=
  cs.flatMap fun c => if c = '/' then ['_', '_'] else [c]

/-- The flat form of a resource name: no leading slash, every other slash doubled to underscores. -/
def flatName (name : String) : Except NameFault String :=
  let bare := bareName name
  if bare.isEmpty then .error .empty
  else if bare.any Text.isBlank then .error (.blank (String.ofList bare))
  else .ok (String.ofList (flatten bare))

/-- What the name of every arbiter automaton starts with. -/
def arbiterPrefix : String := "srv_handler_"

/-- The event by which a client asks for a service. -/
def clientRequest (service client : String) : Except NameFault String :=
  (flatName service).map fun s => "srv_" ++ s ++ "_req_client_" ++ client

/-- The event by which a client gets its answer. -/
def clientResponse (service client : String) : Except NameFault String :=
  (flatName service).map fun s => "srv_" ++ s ++ "_response_client_" ++ client

/-- The event by which a request reaches the server. -/
def serverRequest (service : String) : Except NameFault String :=
  (flatName service).map fun s => "srv_" ++ s ++ "_request"

/-- The event by which the server answers. -/
def serverResponse (service : String) : Except NameFault String :=
  (flatName service).map fun s => "srv_" ++ s ++ "_response"

/-- The event that carries a message of a topic. -/
def topicMessage (topic : String) : Except NameFault String :=
  (flatName topic).map fun t => "topic_" ++ t ++ "_msg"

/-- The event of a timer's tick. -/
def timerTick (timer : String) : String := "ros_time_rate." ++ timer

/-- The name of the arbiter automaton of a service. -/
def arbiterName (service : String) : Except NameFault String :=
  (flatName service).map fun s => arbiterPrefix ++ s

end Wire

end ChartNet
