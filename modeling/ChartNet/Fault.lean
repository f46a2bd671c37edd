import ChartNet.Chart.Validity
import ChartNet.Expr.Eval
import ChartNet.Wire

/-!
# What can be wrong with a network

One type for everything that stops the compilation of a network, and its wording.
-/

namespace ChartNet

/-- How the parties of a service can fail to make up a service. -/
inductive ContractFault where
  /-- a party names another type than the first one did -/
  | typeMismatch (expected found : String)
  /-- a second server comes forward -/
  | multipleServers (first second : String)
  /-- nobody serves -/
  | noServer
  /-- nobody asks -/
  | noClients
  /-- a client comes forward twice -/
  | duplicateClient (automaton : String)
  /-- an automaton would be on both sides -/
  | clientAndServer (automaton : String)
  /-- nobody has registered -/
  | unset
deriving DecidableEq, Repr

/-- The wording of a contract fault. -/
def ContractFault.message : ContractFault → String
  | typeMismatch expected found =>
    "type `" ++ found ++ "` does not match previously registered type `" ++ expected ++ "`"
  | multipleServers first second =>
    "automata `" ++ first ++ "` and `" ++ second ++ "` both serve the service"
  | noServer => "no server registered"
  | noClients => "no client registered"
  | duplicateClient automaton => "client `" ++ automaton ++ "` registered more than once"
  | clientAndServer automaton => "automaton `" ++ automaton ++ "` is both server and client"
  | unset => "service name and type not set"

/-- What stops the compilation of a network. -/
inductive Fault where
  /-- a chart is not well formed -/
  | malformed (automaton : String) (cause : ChartFault)
  /-- a resource is used that is not declared with the role it needs -/
  | unresolved (automaton : String) (role : Role) (resource : String)
  /-- a resource is declared twice with the same role -/
  | duplicateDeclaration (automaton : String) (role : Role) (resource : String)
  /-- a type is not in the catalogue -/
  | unknownType (automaton resource type : String)
  /-- a resource's name has no flat form -/
  | invalidName (automaton : String) (cause : NameFault)
  /-- an emission does not supply all fields -/
  | missingFields (automaton resource : String) (fields : List String)
  /-- an emission supplies fields that there are none of -/
  | unknownFields (automaton resource : String) (fields : List String)
  /-- an emission supplies a field twice -/
  | duplicateField (automaton resource field : String)
  /-- the parties of a service do not make up a service -/
  | contract (service : String) (cause : ContractFault)
  /-- the rate of a timer is not positive and finite -/
  | invalidRate (automaton timer : String) (rate : Float)
  /-- two charts declare a timer of the same name -/
  | duplicateTimer (name : String)
  /-- two charts have the same name -/
  | duplicateAutomaton (name : String)
  /-- an expression has no value, or one of the wrong type -/
  | expression (cause : ExprError)

/-- The wording of a fault. -/
def Fault.message : Fault → String
  | malformed automaton cause => "malformed statechart `" ++ automaton ++ "`: " ++ cause.message
  | unresolved automaton role resource =>
    "automaton `" ++ automaton ++ "` uses " ++ role.text ++ " `" ++ resource
      ++ "` without declaring it"
  | duplicateDeclaration automaton role resource =>
    "automaton `" ++ automaton ++ "` declares " ++ role.text ++ " `" ++ resource
      ++ "` more than once"
  | unknownType automaton resource type =>
    "automaton `" ++ automaton ++ "` declares `" ++ resource ++ "` with unknown type `" ++ type
      ++ "`"
  | invalidName automaton cause =>
    "automaton `" ++ automaton ++ "` declares an invalid interface name: " ++ cause.message
  | missingFields automaton resource fields =>
    "automaton `" ++ automaton ++ "` does not supply fields " ++ Text.quotedList fields ++ " of `"
      ++ resource ++ "`"
  | unknownFields automaton resource fields =>
    "automaton `" ++ automaton ++ "` supplies fields " ++ Text.quotedList fields ++ " unknown to `"
      ++ resource ++ "`"
  | duplicateField automaton resource field =>
    "automaton `" ++ automaton ++ "` supplies field `" ++ field ++ "` of `" ++ resource
      ++ "` more than once"
  | contract service cause => "invalid service `" ++ service ++ "`: " ++ cause.message
  | invalidRate automaton timer rate =>
    "automaton `" ++ automaton ++ "` declares timer `" ++ timer ++ "` with invalid rate "
      ++ Decimal.positional rate
  | duplicateTimer name => "timer `" ++ name ++ "` declared more than once"
  | duplicateAutomaton name => "automaton `" ++ name ++ "` defined more than once"
  | expression cause => cause.message

/-- The fault of a name as one of the automaton that uses it. -/
def usedBy (automaton : String) : Except NameFault String → Except Fault String
  | .ok s => .ok s
  | .error cause => .error (.invalidName automaton cause)

end ChartNet
