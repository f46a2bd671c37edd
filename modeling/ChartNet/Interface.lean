import ChartNet.Expr.Value
import ChartNet.Text.Blank

/-!
# The interface catalogue

The message and service types that a network may use, with the fields of each. A type is spelled
`package/Name`, or in full `package/msg/Name` for a message and `package/srv/Name` for a service.
-/

namespace ChartNet

/-- The primitive types of fields; all widths of a number share one type. -/
inductive FieldType where
  | boolean
  | integer
  | float
  | string
deriving DecidableEq, Repr

namespace FieldType

/-- The expression for the value of a field that nothing was assigned to. -/
def defaultExpr : FieldType → String
  | boolean => "false"
  | integer => "0"
  | float => "0.0"
  | string => "\"\""

/-- The name by which generated data refers to the type. -/
def typeName : FieldType → String
  | boolean => "bool"
  | integer => "int64"
  | float => "float64"
  | string => "string"

/-- The value belongs to the type. A whole number is also a float, for expressions do not keep the
two apart. -/
def admits : FieldType → Value → Bool
  | boolean, .boolean _ => true
  | integer, .integer _ => true
  | float, .float _ => true
  | float, .integer _ => true
  | string, .string _ => true
  | _, _ => false

end FieldType

/-- A named and typed part of a message, request or response. -/
structure Field where
  /-- the name of the field -/
  name : String
  /-- the type of its values -/
  type : FieldType
deriving DecidableEq, Repr

/-- The two halves of a service. -/
structure ServiceSchema where
  /-- the fields of a request -/
  request : List Field
  /-- the fields of a response -/
  response : List Field
deriving DecidableEq, Repr

namespace Catalogue

/-- Package and name of a type, if it has one of the two spellings; `kind` is the middle part of
the long one. -/
def typeParts? (kind type : String) : Option (String × String) :=
  match (Text.pieces '/' type.toList).map String.ofList with
  | [package, name] => some (package, name)
  | [package, middle, name] => if middle = kind then some (package, name) else none
  | _ => none

/-- The field of the messages that carry one datum. -/
def datum (type : FieldType) : List Field := [⟨"data", type⟩]

/-- The answer of the services that only report how they fared. -/
def outcome : List Field := [⟨"success", .boolean⟩, ⟨"message", .string⟩]

/-- The messages of the standard package. -/
def standardMessage? : String → Option (List Field)
  | "Bool" => some (datum .boolean)
  | "Empty" => some []
  | "String" => some (datum .string)
  | "Int8" | "Int16" | "Int32" | "Int64" => some (datum .integer)
  | "UInt8" | "UInt16" | "UInt32" | "UInt64" => some (datum .integer)
  | "Float32" | "Float64" => some (datum .float)
  | _ => none

/-- The fields of a message type, if the type is known. -/
def message? (type : String) : Option (List Field) :=
  match typeParts? "msg" type with
  | some ("std_msgs", name) => standardMessage? name
  | _ => none

/-- The fields of a service type, if the type is known. -/
def service? (type : String) : Option ServiceSchema :=
  match typeParts? "srv" type with
  | some ("std_srvs", "Empty") => some ⟨[], []⟩
  | some ("std_srvs", "SetBool") => some ⟨datum .boolean, outcome⟩
  | some ("example_interfaces", "SetBool") => some ⟨datum .boolean, outcome⟩
  | some ("std_srvs", "Trigger") => some ⟨[], outcome⟩
  | some ("example_interfaces", "Trigger") => some ⟨[], outcome⟩
  | some ("example_interfaces", "AddTwoInts") =>
    some ⟨[⟨"a", .integer⟩, ⟨"b", .integer⟩], [⟨"sum", .integer⟩]⟩
  | _ => none

end Catalogue

end ChartNet
