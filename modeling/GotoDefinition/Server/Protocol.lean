import GotoDefinition.Json.Basic
import GotoDefinition.Settings.Basic

/-!
# Messages between client and server

The client sends requests, which have an identifier and are answered, and
notifications, which are not.  The server sends log messages and a few requests of its
own, to each of which the client replies with a result or an error.
-/

namespace GotoDefinition

/-! ## From the client -/

/-- A request or, without an identifier, a notification. -/
structure Message where
  id : Option Json
  method : String
  params : Option Json

/-- Why a request has no result. -/
structure ResponseError where
  code : Int
  message : String
  data : Option Json := none

namespace ResponseError

/-- The conversation has not begun. -/
def notInitialized : ResponseError := { code := -32002, message := "Server not initialized" }

/-- The conversation is over, or was begun before. -/
def invalidRequest : ResponseError := { code := -32600, message := "Invalid request" }

/-- The server does not offer the method. -/
def methodNotFound : ResponseError := { code := -32601, message := "Method not found" }

/-- The parameters do not have the shape they should. -/
def invalidParams (reason : String) : ResponseError := { code := -32602, message := reason }

/-- The server could not do what it should. -/
def internal (reason : String) : ResponseError := { code := -32603, message := reason }

/-- The message is not JSON. -/
def parseError : ResponseError := { code := -32700, message := "Parse error" }

/-- An error as JSON. -/
def toJson (error : ResponseError) : Json :=
  let data := (error.data.map fun data => ("data", data)).toList
  .ofMembers ([("code", .integer error.code), ("message", .string error.message)] ++ data)

end ResponseError

/-- The answer to a request. -/
structure Response where
  id : Json
  outcome : Except ResponseError Json

namespace Response

/-- A response as JSON. -/
def toJson (response : Response) : Json :=
  let outcome :=
    match response.outcome with
    | .ok result => ("result", result)
    | .error error => ("error", error.toJson)
  .ofMembers [("jsonrpc", .string "2.0"), outcome, ("id", response.id)]

end Response

namespace Message

/-- The message that a JSON object holds. -/
def ofJson? (value : Json) : Option Message :=
  match value.get? "method" with
  | some (.string method) => some { id := value.get? "id", method, params := value.get? "params" }
  | _ => none

end Message

/-! ## To the client -/

/-- How important a log message is. -/
inductive LogLevel where
  | error
  | warning
  | info
  | log
deriving DecidableEq, Repr

/-- The number of a level. -/
def LogLevel.code : LogLevel → Nat
  | .error => 1
  | .warning => 2
  | .info => 3
  | .log => 4

/-- What the server sends on its own account. -/
inductive Sent where
  | log (level : LogLevel) (message : String)
  | register (registration : Registration)
  | unregister
  | askConfiguration (sectionName : String)
deriving DecidableEq, Repr

namespace Sent

/-- The method a message is sent under. -/
def method : Sent → String
  | .log _ _ => "window/logMessage"
  | .register _ => "client/registerCapability"
  | .unregister => "client/unregisterCapability"
  | .askConfiguration _ => "workspace/configuration"

/-- Whether the client has to reply. -/
def isRequest : Sent → Bool
  | .log _ _ => false
  | _ => true

/-- The parameters of a message. -/
def params : Sent → Json
  | .log level message =>
    .ofMembers [("type", .nat level.code), ("message", .string message)]
  | .register registration => .ofMembers [("registrations", .array [registration.toJson])]
  | .unregister =>
    let registered := Json.ofMembers [
      ("id", .string Registration.id), ("method", .string Registration.method)]
    .ofMembers [("unregisterations", .array [registered])]
  | .askConfiguration sectionName =>
    .ofMembers [("items", .array [.ofMembers [("section", .string sectionName)]])]

end Sent

/-- How a client replies to a request of the server. -/
inductive Reply where
  | result (value : Json)
  | error (reason : String)

namespace Reply

/-- Whether a request without a result succeeded: its result has to be null. -/
def succeeds : Reply → Bool
  | .result .null => true
  | _ => false

/-- The values of a reply that is a list. -/
def values? : Reply → Option (List Json)
  | .result (.array values) => some values
  | _ => none

end Reply

/-- How the client replies to each request of the server while it handles one message. -/
structure Replies where
  register : Reply := .result .null
  unregister : Reply := .result .null
  configuration : Reply := .result .null

end GotoDefinition
