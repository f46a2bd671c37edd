import ChartNet.Chart.Basic

/-!
# The vocabulary of documents

The names of elements and attributes by which a document spells a chart. Reader and writer share
them.
-/

namespace ChartNet

/-- The element of a declaration. -/
def Declaration.tag : Declaration → String
  | timer .. => "ros_time_rate"
  | endpoint .publisher .. => "ros_topic_publisher"
  | endpoint .subscriber .. => "ros_topic_subscriber"
  | endpoint .server .. => "ros_service_server"
  | endpoint .client .. => "ros_service_client"

/-- The attribute that names the resource of a side. -/
def Endpoint.key : Endpoint → String
  | publisher | subscriber => "topic"
  | server | client => "service_name"

/-- The element of a reception. -/
def Reception.tag : Reception → String
  | tick => "ros_rate_callback"
  | message => "ros_topic_callback"
  | request => "ros_service_handle_request"
  | response => "ros_service_handle_response"

/-- The attribute that names the resource of a reception. -/
def Reception.key : Reception → String
  | tick => "name"
  | message => "topic"
  | request | response => "service_name"

/-- The element of a transition with this trigger. -/
def Trigger.tag : Trigger → String
  | events _ => "transition"
  | reception kind _ => kind.tag

/-- The element of an emission. -/
def Emission.tag : Emission → String
  | message => "ros_topic_publish"
  | request => "ros_service_send_request"
  | response => "ros_service_send_response"

/-- The attribute that names the resource of an emission. -/
def Emission.key : Emission → String
  | message => "topic"
  | request | response => "service_name"

/-- The element of an action. -/
def Action.tag : Action → String
  | assign .. => "assign"
  | send .. => "send"
  | choose .. => "if"
  | emit kind .. => kind.tag

namespace Document

/-- The version that documents give. -/
def version : String := "1.0"

/-- The namespace of the elements. -/
def namespaceName : String := "http://www.w3.org/2005/07/scxml"

/-- The language of the expressions. -/
def language : String := "ecmascript"

end Document

end ChartNet
