import GotoDefinition.Json.Parser
import GotoDefinition.Json.Printer
import GotoDefinition.Server.Protocol
import GotoDefinition.Text.Utf8

/-!
# Messages on a byte stream

Every message is JSON behind a header that gives its length in bytes.  What the client
sends is a message for the server or its reply to a request of the server.
-/

namespace GotoDefinition.Frame

/-- The length that a header line gives, if it is the line with the length. -/
def lengthOfLine? (line : String) : Option Nat :=
  let text := line.toList
  let name := text.takeWhile (· != ':')
  if String.ofList (name.map Char.toLower) == "content-length" then
    (String.ofList (((text.drop (name.length + 1)).filter Decimal.isDigit))).toNat?
  else none

/-- The length that a header gives. -/
def contentLength? (lines : List String) : Option Nat :=
  lines.findSome? lengthOfLine?

/-- A value behind its header. -/
def write (value : Json) : String :=
  let body := value.compress
  let length := Text.ofNat (Text.utf8Length body.toList)
  "Content-Length: " ++ String.ofList length ++ "\r\n\r\n" ++ body

/-- What the client sent. -/
inductive Incoming where
  | message (message : Message)
  | reply (id : Json) (reply : Reply)
  | malformed

/-- What the bytes behind a header hold. -/
def Incoming.ofBytes (bytes : Bytes) : Incoming :=
  match (Text.ofUtf8? bytes).bind Json.parse? with
  | none => .malformed
  | some value =>
    match Message.ofJson? value with
    | some found => .message found
    | none =>
      match value.get? "error", value.get? "id" with
      | some error, some id => .reply id (.error error.compress)
      | none, some id => .reply id (.result (value.getD "result"))
      | _, none => .malformed

/-- What the server sends on its own account, with an identifier if it is a request. -/
def sentJson (sent : Sent) (id : Nat) : Json :=
  let identifier := if sent.isRequest then [("id", Json.nat id)] else []
  .ofMembers ([
    ("jsonrpc", .string "2.0"), ("method", .string sent.method), ("params", sent.params)] ++ identifier)

/-- The replies with the one to a given request put in. -/
def withReply (replies : Replies) (request : Sent) (reply : Reply) : Replies :=
  match request with
  | .register _ => { replies with register := reply }
  | .unregister => { replies with unregister := reply }
  | .askConfiguration _ => { replies with configuration := reply }
  | .log _ _ => replies

end GotoDefinition.Frame
