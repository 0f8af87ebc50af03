import Handover.Json.Value
import Handover.StartCommand.Flags
import Handover.StartCommand.WalFailover

/-!
# Looking into start commands

What the library makes of a start command or of a single flag, as a report and without a
cluster. A command is given as one text; its quoted words become the parts of a container's
command before they are read.
-/

namespace Handover

def Json.nat (n : Nat) : Json := .int n

def StartFlags.toJson (f : StartFlags) : Json := .object [
  ("sql_port", .nat f.sqlPort.toNat),
  ("grpc_port", .nat f.grpcPort.toNat),
  ("http_port", .nat f.httpPort.toNat),
  ("join", .texts f.join),
  ("insecure", .bool f.insecure),
  ("locality", .array (f.locality.map fun (tier, value) => .texts [tier, value])),
  ("wal_failover", .text? f.walFailover),
  ("stores", .texts f.stores),
  ("log_config_file", .text? f.logConfigFile),
  ("extra", f.extra.toJson)]

def WalFailover.toJson : WalFailover → Json
  | .disabled => .object [("mode", .text "disabled")]
  | .amongStores => .object [("mode", .text "among-stores")]
  | .sideDisk path => .object [("mode", .text "side-disk"), ("path", .text path)]

namespace Inspection

/-- The flags of a command and its mode of WAL failover. -/
def interpret (command : String) : Outcome (StartFlags × WalFailover) := do
  let flags ← StartCommand.parse (StartCommand.tokenize [command])
  return (flags, ← WalFailover.classify flags.walFailover flags.storeCount)

def command (text : String) : Outcome String := do
  let (flags, mode) ← interpret text
  return (Json.object [("flags", flags.toJson), ("wal_failover", mode.toJson)]).pretty

/-- The report of a value of the flag for WAL failover. -/
def walFailover (value : Option String) (storeCount : Nat) : Outcome String := do
  return (← WalFailover.classify value storeCount).toJson.pretty

/-! ## Reference -/

/-- The flags that have a meaning, with what they mean, by name. -/
def interpretedFlags : List (String × String) := [
  ("--http-addr", "HTTP listen address; its port wins over --http-port (default 8080)"),
  ("--http-port", "HTTP port when --http-addr is absent"),
  ("--insecure", "bare or =true/false; disables trust material mapping"),
  ("--join", "comma-separated join targets, order kept"),
  ("--listen-addr", "inter-node listen address; its port is the gRPC port (default 26258)"),
  ("--locality", "tiers k=v,...; region and zone map to topology labels"),
  ("--port", "combined SQL and inter-node port; the SQL port when --sql-addr is absent"),
  ("--sql-addr", "SQL listen address; its port wins over --port (default 26257)"),
  ("--store", "repeatable; counted for among-stores and matched to data volumes"),
  ("--wal-failover",
    "disabled | among-stores | path=<absolute mount>; anything else is rejected")]

def flagReference : String :=
  (Json.object [
    ("dropped", .texts StartCommand.droppedFlags),
    ("interpreted", .object (interpretedFlags.map fun (name, use) => (name, .text use))),
    ("passthrough", .text ("any other flag is kept verbatim in first-seen order; "
      ++ "a repeated flag keeps its last value"))]).pretty

end Inspection

end Handover
