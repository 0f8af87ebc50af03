import Handover.Inspection
import Handover.Logging
import Handover.Manifest.Emission
import Handover.Observation.Observe
import Handover.Synthesis.Basic

/-!
# Handing a cluster over

A run reads the cluster, decides everything, and only then acts: it bridges the configuration of
logging, has trust material renamed, records permissions when it is asked to, and writes the
files. Nothing is undone when a step fails, so what a failed run leaves behind depends on the
order of its steps alone. All files are decided before the first act, and a cluster that the
target cannot express leaves everything as it was.
-/

namespace Handover

/-! ## Platforms -/

/-- The platform that a run acts on: its objects, and the renames of trust material that runs
have asked for, with the namespace of each. -/
structure Platform where
  store : ObjectStore := {}
  rekeyed : List (String × TrustMap) := []
  deriving DecidableEq, Repr, Inhabited

/-- A part of a run that reads the platform and acts on it. When it fails, what it has done up to
there stays done. -/
abbrev OnPlatform := ExceptT Failure (StateM Platform)

namespace OnPlatform

/-- The result on a platform, and the platform that is left. -/
def on {α : Type} (part : OnPlatform α) (platform : Platform) : Outcome α × Platform :=
  StateT.run (ExceptT.run part) platform

def objects : OnPlatform ObjectStore := do return (← get).store

/-- Bring the configuration of logging of a cluster to where the target looks. -/
def bridgeLogging (direction : Direction) (o : ClusterObservation) : OnPlatform BridgeOutcome := do
  let bridge ← Logging.bridge (← objects) direction o
  modify fun platform => { platform with store := bridge.run platform.store o.ns }
  return bridge.outcome

def rekey (ns : String) (trust : TrustMap) : OnPlatform Unit :=
  modify fun platform => { platform with rekeyed := platform.rekeyed ++ [(ns, trust)] }

def applyRbac (ns : String) (bundle : RbacBundle) : OnPlatform Unit :=
  modify fun platform =>
    { platform with store := platform.store.recordRbac ns bundle.objectNames }

end OnPlatform

/-! ## Runs -/

/-- What a run did. -/
structure Report where
  cluster : String
  ns : String
  direction : Direction
  nodes : Nat
  logging : BridgeOutcome
  trust : TrustMap
  rbacApplied : Bool
  files : List String
  deriving DecidableEq, Repr, Inhabited

def Report.toJson (r : Report) : Json := .object [
  ("cluster", .text r.cluster),
  ("namespace", .text r.ns),
  ("direction", .text r.direction.text),
  ("nodes", .nat r.nodes),
  ("logging", .text r.logging.text),
  ("security", r.trust.toJson),
  ("rbac_applied", .bool r.rbacApplied),
  ("files", .texts r.files)]

/-- What a run has decided and done when only the files are left to write. -/
structure Prepared where
  direction : Direction
  nodes : Nat
  logging : BridgeOutcome
  trust : TrustMap
  rbacApplied : Bool
  files : List ManifestFile
  deriving DecidableEq, Repr, Inhabited

/-- The report of a run whose files were written to some paths. -/
def Prepared.report (p : Prepared) (r : Request) (files : List String) : Report where
  cluster := r.cluster
  ns := r.namespaceName
  direction := p.direction
  nodes := p.nodes
  logging := p.logging
  trust := p.trust
  rbacApplied := p.rbacApplied
  files := files

/-- The part of a run before its files are written. -/
def prepare (r : Request) : OnPlatform Prepared := do
  let inventory ← Inventory.read (← OnPlatform.objects) r.source r.namespaceName r.cluster
  let o ← observe inventory
  let direction := Direction.ofSource r.source
  let trust ← TrustMap.checked (← OnPlatform.objects) direction o
  let files ← synthesize direction o trust r.target
  let logging ← OnPlatform.bridgeLogging direction o
  OnPlatform.rekey r.namespaceName trust
  let rbacApplied := direction = .toStatefulSet && r.applyRbac
  if rbacApplied then
    OnPlatform.applyRbac r.namespaceName
      (.of r.cluster r.namespaceName (LegacyChart.serviceAccountName o))
  return { direction, nodes := o.nodes.length, logging, trust, rbacApplied, files }

variable {m : Type → Type} [Monad m] [FileSystem m]

/-- Hand a cluster over. The result comes with the platform as the run leaves it. -/
def handOver (platform : Platform) (r : Request) : m (Outcome Report × Platform) := do
  match (prepare r).on platform with
  | (.error failure, platform) => return (.error failure, platform)
  | (.ok prepared, platform) =>
    let written ← (Emission.emit r.outputDir prepared.files : ExceptT Failure m _)
    return (written.map (prepared.report r), platform)

def loadStore (path : String) : ExceptT Failure m ObjectStore := do
  let text ← FileSystem.naming path (FileSystem.readText path)
  ExceptT.mk (pure (ObjectStore.load text))

/-- Hand over a cluster as a dump describes it. Without a dump there is no platform to reach. -/
def handOverFrom (dump : Option String) (r : Request) : ExceptT Failure m Report := do
  match dump with
  | some path =>
    let store ← loadStore path
    let (result, _) ← (handOver { store } r : m _)
    ExceptT.mk (pure result)
  | none => throw (.platform "no platform is configured")

end Handover
