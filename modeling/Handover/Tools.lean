import Handover.Migration

/-!
# Tools for agents

The same work offered as tools that are called by name with arguments in JSON. An answer is a
text, marked when it reports an error.
-/

namespace Handover

/-- A tool. -/
inductive Tool where
  | buildMigrationManifests
  | parseStartCommand
  | classifyWalFailover
  | listRecognizedFlags
  deriving DecidableEq, Repr

namespace Tool

def all : List Tool :=
  [.buildMigrationManifests, .classifyWalFailover, .listRecognizedFlags, .parseStartCommand]

def name : Tool → String
  | .buildMigrationManifests => "build_migration_manifests"
  | .parseStartCommand => "parse_start_command"
  | .classifyWalFailover => "classify_wal_failover"
  | .listRecognizedFlags => "list_recognized_flags"

def description : Tool → String
  | .buildMigrationManifests =>
    "Read a running cluster and write manifests for the other management scheme"
  | .parseStartCommand =>
    "Interpret a database container start command: ports, join list, extra flags, WAL failover mode"
  | .classifyWalFailover =>
    "Classify a --wal-failover value as disabled, among-stores or side-disk"
  | .listRecognizedFlags =>
    "List the start flags the interpreter recognizes, drops, or passes through"

def ofName? (name : String) : Option Tool := all.find? (·.name = name)

def instructions : String :=
  "MCP for CockroachDB migration between StatefulSet and CrdbNode management: "
    ++ "build manifests and inspect start commands."

/-! ## Arguments -/

abbrev Refused := Except String

/-- The argument with a name, unless it is absent or null. -/
def argument? (arguments : Json) (name : String) : Option Json :=
  match arguments.member? name with
  | some .null => none
  | found => found

def text? (arguments : Json) (name : String) : Refused (Option String) :=
  match argument? arguments name with
  | none => .ok none
  | some (.text s) => .ok (some s)
  | some _ => .error s!"invalid type of {name}, expected a string"

def text (arguments : Json) (name : String) : Refused String := do
  match ← text? arguments name with
  | some s => return s
  | none => throw s!"missing field {name}"

def bool? (arguments : Json) (name : String) : Refused (Option Bool) :=
  match argument? arguments name with
  | none => .ok none
  | some (.bool b) => .ok (some b)
  | some _ => .error s!"invalid type of {name}, expected a boolean"

def count? (arguments : Json) (name : String) : Refused (Option Nat) :=
  match argument? arguments name with
  | none => .ok none
  | some (.int i) =>
    if 0 ≤ i ∧ i ≤ Text.maxWord64 then .ok (some i.toNat)
    else .error s!"invalid value of {name}, expected a count"
  | some _ => .error s!"invalid type of {name}, expected a count"

/-- The request of a call that hands a cluster over, and the dump to read. -/
def request (arguments : Json) : Refused (Request × Option String) := do
  let source ← text arguments "source"
  let source ← match Source.read? source with
    | some source => pure source
    | none => throw s!"unknown variant {source}"
  let request : Request := {
    source
    cluster := ← text arguments "name"
    namespaceName := (← text? arguments "namespace").getD "default"
    outputDir := ← text arguments "output_dir"
    target := {
      cloudProvider := ← text? arguments "cloud_provider"
      region := ← text? arguments "region"
      image := ← text? arguments "image"
      clusterDomain := ← text? arguments "cluster_domain" }
    applyRbac := (← bool? arguments "apply_rbac").getD false }
  return (request, ← text? arguments "snapshot")

/-! ## Calls -/

/-- The answer of a tool. -/
structure Answer where
  isError : Bool
  text : String
  deriving DecidableEq, Repr, Inhabited

def Answer.of : Outcome String → Answer
  | .ok text => ⟨false, text⟩
  | .error failure => ⟨true, failure.message⟩

def Answer.refused (reason : String) : Answer :=
  ⟨true, s!"failed to deserialize parameters: {reason}"⟩

variable {m : Type → Type} [Monad m] [FileSystem m]

def call (tool : Tool) (arguments : Json) : m Answer := do
  match tool with
  | .buildMigrationManifests =>
    match request arguments with
    | .error reason => return .refused reason
    | .ok (request, dump) =>
      let result ← (handOverFrom dump request : ExceptT Failure m _)
      return .of (result.map fun report => report.toJson.pretty)
  | .parseStartCommand =>
    match text arguments "command" with
    | .error reason => return .refused reason
    | .ok command => return .of (Inspection.command command)
  | .classifyWalFailover =>
    match text? arguments "value", count? arguments "store_count" with
    | .ok value, .ok count => return .of (Inspection.walFailover value (count.getD 1))
    | .error reason, _ => return .refused reason
    | _, .error reason => return .refused reason
  | .listRecognizedFlags => return ⟨false, Inspection.flagReference⟩

end Tool

end Handover
