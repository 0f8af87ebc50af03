import Handover.Json.Reader
import Handover.Tools

/-!
# Tools over JSON-RPC

The tools are served over the Model Context Protocol: a client sends one message on each line,
and every message with an identifier gets an answer on a line of its own.
-/

namespace Handover.Service

/-- An error of the protocol. -/
structure ProtocolError where
  code : Int
  message : String
  deriving DecidableEq, Repr

def unknownMethod : ProtocolError := ⟨-32601, "method not found"⟩

def unknownTool : ProtocolError := ⟨-32602, "tool not found"⟩

def notJson : ProtocolError := ⟨-32700, "parse error"⟩

/-- The version of the protocol for a client that does not ask for one. -/
def protocolVersion : String := "2024-11-05"

def introduction (params : Json) : Json :=
  let version := match params.member? "protocolVersion" with
    | some (.text version) => version
    | _ => protocolVersion
  .object [
    ("protocolVersion", .text version),
    ("capabilities", .object [("tools", .object [])]),
    ("serverInfo", .object [("name", .text "crdb-migrate"), ("version", .text "1.0.0")]),
    ("instructions", .text Tool.instructions)]

def tools : Json :=
  .object [("tools", .array (Tool.all.map fun tool => .object [
    ("name", .text tool.name),
    ("description", .text tool.description),
    ("inputSchema", .object [("type", .text "object")])]))]

def result (answer : Tool.Answer) : Json := .object [
  ("content", .array [.object [("type", .text "text"), ("text", .text answer.text)]]),
  ("isError", .bool answer.isError)]

variable {m : Type → Type} [Monad m] [FileSystem m]

def call (name : String) (arguments : Json) : m (Except ProtocolError Tool.Answer) := do
  match Tool.ofName? name with
  | some tool => return .ok (← tool.call arguments)
  | none => return .error unknownTool

def dispatch (method : String) (params : Json) : m (Except ProtocolError Json) := do
  match method with
  | "initialize" => return .ok (introduction params)
  | "ping" => return .ok (.object [])
  | "tools/list" => return .ok tools
  | "tools/call" =>
    let name := match params.member? "name" with
      | some (.text name) => name
      | _ => ""
    return (← call name ((params.member? "arguments").getD (.object []))).map result
  | _ => return .error unknownMethod

def envelope (id : Json) (outcome : Except ProtocolError Json) : Json :=
  .object [("jsonrpc", .text "2.0"), ("id", id), match outcome with
    | .ok result => ("result", result)
    | .error e => ("error", .object [("code", .int e.code), ("message", .text e.message)])]

/-- The answer to a line, if it gets one. -/
def respond (line : String) : m (Option String) := do
  match Json.read line with
  | .error _ => return some (envelope .null (.error notJson)).compact
  | .ok message =>
    match message.member? "method", message.member? "id" with
    | some (.text method), some id =>
      let outcome ← dispatch method ((message.member? "params").getD (.object []))
      return some (envelope id outcome).compact
    | _, _ => return none

end Handover.Service
