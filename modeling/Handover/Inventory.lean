import Handover.ObjectStore
import Handover.Settings.Basic

/-!
# What a cluster consists of

An inventory holds the objects of one running cluster: its controller, its pods in the order of
their numbers, every claim that a pod mounts, and the service for its clients. Reading it settles
that there is a pod for every node and a host for every pod.
-/

namespace Handover

open Kubernetes

/-- What controls the pods of a cluster. -/
inductive Controller where
  | statefulSet (s : StatefulSet)
  /-- One for each node, in the order of their numbers. -/
  | crdbNodes (nodes : List CrdbNode)
  deriving DecidableEq, Repr, Inhabited

/-- The objects of one running cluster. -/
structure Inventory where
  ns : String
  cluster : String
  controller : Controller
  /-- In the order of their numbers. -/
  pods : List Pod
  /-- Every claim that a pod mounts, by name. -/
  claims : KeyMap String Claim
  publicService : Option Service
  deriving DecidableEq, Repr, Inhabited

namespace Inventory

/-! ## CrdbNodes -/

def numbered (cluster : String) (node : CrdbNode) : Outcome (Nat × CrdbNode) := do
  let ordinal ← required (.validation (.foreignNodeName node.name cluster))
    (Names.ordinalOf? cluster node.name)
  return (ordinal, node)

/-- Refuse numbers that do not go up by one from `expected`. -/
def checkContiguous (cluster : String) : Nat → List (Nat × CrdbNode) → Outcome Unit
  | _, [] => .ok ()
  | expected, (ordinal, node) :: nodes =>
    if ordinal = expected then checkContiguous cluster (expected + 1) nodes
    else .error (.validation (.ordinalGap cluster expected node.name))

/-- The CrdbNodes of a cluster in the order of their numbers, which go up from zero. -/
def orderNodes (ns cluster : String) (listed : List CrdbNode) : Outcome (List CrdbNode) := do
  let nodes ← listed.mapM (numbered cluster)
  if nodes.isEmpty then missing "CrdbNode" s!"{Names.qualified ns cluster}-*"
  else
    let sorted := nodes.mergeSort fun a b => a.1 ≤ b.1
    checkContiguous cluster 0 sorted
    return sorted.map (·.2)

/-! ## Controllers -/

/-- The number of pods that a StatefulSet asks for. -/
def replicas (cluster : String) (s : StatefulSet) : Outcome Nat :=
  let replicas := ((s.spec.bind (·.replicas)).getD 1).toInt
  if replicas < 0 then .error (.validation (.negativeReplicas cluster replicas))
  else .ok replicas.toNat

/-- The controller of a cluster, and the number of its pods. -/
def readController (store : ObjectStore) (source : Source) (ns cluster : String) :
    Outcome (Controller × Nat) :=
  match source with
  | .statefulSet => do
    let s ← required (.notFound "StatefulSet" (Names.qualified ns cluster))
      (store.statefulSet? ns cluster)
    return (.statefulSet s, ← replicas cluster s)
  | .crdbNode => do
    let nodes ← orderNodes ns cluster (store.crdbNodesOf ns cluster)
    return (.crdbNodes nodes, nodes.length)

/-! ## Pods and claims -/

/-- A pod by its number, with its specification. It must have a host. -/
def readPod (store : ObjectStore) (ns cluster : String) (ordinal : Nat) :
    Outcome (Pod × PodSpec) := do
  let name := Names.nodeName cluster ordinal
  let pod ← required (.notFound "Pod" (Names.qualified ns name)) (store.pod? ns name)
  let spec ← required (.notFound "PodSpec" name) pod.spec
  if (spec.nodeName.getD "").isEmpty then .error (.schedulingIncomplete name)
  else return (pod, spec)

/-- The claims read so far and one more. -/
def readClaim (store : ObjectStore) (ns : String) (claims : KeyMap String Claim) (name : String) :
    Outcome (KeyMap String Claim) := do
  let claim ← required (.notFound "PersistentVolumeClaim" (Names.qualified ns name))
    (store.claim? ns name)
  return claims.insert name claim

/-- The pods from a number on, and the claims read so far and theirs. -/
def readPods (store : ObjectStore) (ns cluster : String) :
    Nat → Nat → KeyMap String Claim → Outcome (List Pod × KeyMap String Claim)
  | 0, _, claims => .ok ([], claims)
  | count + 1, ordinal, claims => do
    let (pod, spec) ← readPod store ns cluster ordinal
    let claims ← spec.claimNames.foldlM (readClaim store ns) claims
    let (pods, claims) ← readPods store ns cluster count (ordinal + 1) claims
    return (pod :: pods, claims)

/-- The inventory of a cluster. -/
def read (store : ObjectStore) (source : Source) (ns cluster : String) : Outcome Inventory := do
  let (controller, count) ← readController store source ns cluster
  if count = 0 then .error (.validation (.noNodes cluster))
  else
    let (pods, claims) ← readPods store ns cluster count 0 .empty
    return {
      ns, cluster, controller, pods, claims
      publicService := store.service? ns (Names.publicService cluster) }

end Inventory

end Handover
