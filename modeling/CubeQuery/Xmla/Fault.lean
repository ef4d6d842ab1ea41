import CubeQuery.Error

set_option autoImplicit false

/-!
# Faults of a connection

What can go wrong between a request and the cellset of its reply. To a query all of these are
errors of its transport.
-/

namespace CubeQuery.Xmla

/-- A fault of a connection to a server. -/
inductive Fault where
  | connection (text : String)
  | protocol (text : String)
  | server (text : String)
  | soap (text : String)
  | exception (messages : List String)
deriving DecidableEq, Repr, Inhabited

namespace Fault

/-- A fault in words. -/
def message : Fault → String
  | connection text => "Connection error: " ++ text
  | protocol text => "Protocol error: " ++ text
  | server text => "Server error: " ++ text
  | soap text => "SOAP fault: " ++ text
  | exception [single] => "MDX error: " ++ single
  | exception messages => "MDX errors: " ++ "; ".intercalate messages

/-- A fault as an error of the transport. -/
def toError (fault : Fault) : Error :=
  .transport fault.message

/-- A fault in JSON: an object whose only field names its kind. -/
def toJson : Fault → Json
  | connection text => .object [("ConnectionError", .text text)]
  | protocol text => .object [("ProtocolError", .text text)]
  | server text => .object [("ServerError", .text text)]
  | soap text => .object [("Fault", .text text)]
  | exception messages => .object [("Exception", .ofList .text messages)]

end Fault

end CubeQuery.Xmla
