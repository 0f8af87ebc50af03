import Handover.Manifest.File
import Handover.Manifest.Values
import Handover.StartCommand.Store
import Handover.Trust

/-!
# A cluster as CrdbNodes

Every pod becomes a CrdbNode of the same name, so that the operator finds the same claims. What
holds for the cluster as a whole goes into the values of the operator's chart.
-/

namespace Handover

open Kubernetes Manifest

namespace CrdbNodes

/-! ## Stores -/

/-- A store that is given on the command line. -/
structure ExplicitStore where
  path : String
  options : List String
  deriving DecidableEq, Repr, Inhabited

/-- A store of a node from the value of its flag. Its path must be absolute. -/
def explicitStore (index : Nat) (store : String) : Outcome ExplicitStore := do
  let path ← required (.validation (.storeWithoutVolume index store))
    ((StartCommand.storePath? store).filter fun path => Text.startsWith path "/")
  return ⟨Text.dropSlashes path, StartCommand.storeOptions store⟩

/-- The first store that lies on a volume, and all others. -/
def takeStore (mount : String) : List ExplicitStore → Option (ExplicitStore × List ExplicitStore)
  | [] => none
  | s :: stores =>
    if Storage.isWithin s.path mount then some (s, stores)
    else (takeStore mount stores).map fun (found, rest) => (found, s :: rest)

/-- The claim that a volume's claim is an instance of. -/
def claimTemplate (d : StorageDescriptor) : Claim where
  metadata := { name := some d.name }
  spec := some {
    accessModes := some (if d.accessModes.isEmpty then ["ReadWriteOnce"] else d.accessModes)
    storageClassName := d.storageClass
    resources := some { requests := some (.of [("storage", d.size)]) } }

def dataStore (d : StorageDescriptor) (path : String) (options : List String) : DataStore where
  name := d.name
  path := some path
  options := options
  volumeClaimTemplate := claimTemplate d

/-- One store for each volume, and the stores that lie on none. Each volume takes the first store
that lies on it and is not taken yet; a volume without one is a store at its mount path. -/
def pairStores : List StorageDescriptor → List ExplicitStore → List DataStore × List ExplicitStore
  | [], stores => ([], stores)
  | d :: ds, stores =>
    match takeStore d.mountPath stores with
    | some (found, rest) =>
      let (paired, left) := pairStores ds rest
      (dataStore d found.path found.options :: paired, left)
    | none =>
      let (paired, left) := pairStores ds stores
      (dataStore d d.mountPath [] :: paired, left)

/-- The stores of a node, one for each data volume. Every store that is given must lie on one. -/
def dataStores (node : NodeObservation) : Outcome (List DataStore) := do
  let explicit ← node.flags.stores.mapM (explicitStore node.index)
  match pairStores node.dataStorage explicit with
  | (stores, []) => return stores
  | (_, left :: _) => .error (.validation (.storeOutside node.index left.path))

/-! ## Nodes -/

/-- The volume for failover. One that is attached but not in use stays declared, so that the
operator does not drop it. -/
def walFailoverSpec (node : NodeObservation) : Option WalFailoverSpec :=
  let spec (status : String) (d : StorageDescriptor) : WalFailoverSpec :=
    { status, name := d.name, path := d.mountPath, size := d.size,
      storageClassName := d.storageClass }
  match node.failover with
  | some d => some (spec "enable" d)
  | none => node.idleFailover?.map (spec "disable")

/-- The flags that a node is given besides those that have a field of their own. -/
def nodeFlags (node : NodeObservation) : ExtraFlags :=
  if node.walFailover = .amongStores then
    node.flags.extra.insert WalFailover.flag WalFailover.amongStores.flagValue
  else node.flags.extra

def hostAddress : EnvVar where
  name := "HOST_IP"
  valueFrom := some (.record [("fieldRef", .record [("fieldPath", .text "status.hostIP")])])

def externalCertificates (trust : TrustMap) : Option ExternalCertificates :=
  if trust.isEmpty then none
  else some {
    caConfigMapName := trust.targetName .ca
    nodeSecretName := trust.targetName .node
    rootSqlClientSecretName := trust.targetName .client }

/-- The label of the platform that tells a tier of a locality. -/
def localityLabel (tier : String) : String :=
  match tier with
  | "region" => "topology.kubernetes.io/region"
  | "zone" => "topology.kubernetes.io/zone"
  | tier => tier

def portField (port : UInt16) : Int32 := Int32.ofInt port.toNat

/-- The CrdbNode of one node. -/
def node (o : ClusterObservation) (n : NodeObservation) (trust : TrustMap) (target : Target) :
    Outcome CrdbNode := do
  let dataStores ← dataStores n
  return {
    metadata := {
      name := some n.podName
      ns := some o.ns
      labels := some (.of [
        (Names.clusterLabel, o.cluster),
        ("app.kubernetes.io/name", "cockroachdb"),
        ("app.kubernetes.io/instance", o.cluster)]) }
    spec := {
      nodeName := some n.host
      join := Text.join "," n.flags.join
      grpcPort := some (portField n.flags.grpcPort)
      sqlPort := some (portField n.flags.sqlPort)
      httpPort := some (portField n.flags.httpPort)
      localityLabels := n.flags.locality.map fun tier => localityLabel tier.1
      loggingConfigMapName := o.logging.map (·.name)
      certificates := (externalCertificates trust).map fun names => ⟨some names⟩
      dataStores
      walFailoverSpec := walFailoverSpec n
      flags := nodeFlags n
      env := o.policy.env ++ [hostAddress]
      resourceRequirements := o.policy.resources
      serviceAccountName := o.policy.serviceAccountName
      podLabels := o.policy.labels
      podAnnotations := o.policy.annotations
      tolerations := o.policy.tolerations
      nodeSelector := o.policy.nodeSelector
      affinity := o.policy.affinity
      topologySpreadConstraints := o.policy.topologySpreadConstraints
      terminationGracePeriodSeconds := o.policy.terminationGracePeriodSeconds
      image := target.image.or o.policy.image } }

/-! ## Chart values -/

/-- The region of a cluster: the one that is set, or else a tier of its locality. -/
def regionCode (o : ClusterObservation) (target : Target) : Outcome String :=
  required (.validation .noRegion)
    (target.region.or ((o.flags.locality.find? (·.1 = "region")).map (·.2)))

def regionValues (o : ClusterObservation) (target : Target) (code : String) : Entries :=
  let region : Entries := []
  let region := region.putText "code" code
  let region := region.putNumber "nodes" o.nodes.length
  let region := region.putText? "cloudProvider" target.cloudProvider
  let region := region.putText "namespace" o.ns
  region.putText? "domain" target.clusterDomain

def portValues (port : Option Int32) : Entries := Entries.putObject? [] "port" .int32 port

def serviceValues (spec : CrdbNodeSpec) : Entries :=
  let ports : Entries := []
  let ports := ports.putEntries "grpc" (portValues spec.grpcPort)
  let ports := ports.putEntries "sql" (portValues spec.sqlPort)
  let ports := ports.putEntries "http" (portValues spec.httpPort)
  Entries.putEntries [] "ports" ports

def storeValues (store : DataStore) : Entries :=
  let entries : Entries := []
  let entries := entries.putObject "volumeClaimTemplate" Claim.codec store.volumeClaimTemplate
  entries.putObject "options" (.list .text) store.options

/-- The values of the cluster, for which its first node stands. -/
def clusterValues (o : ClusterObservation) (target : Target) (code : String)
    (spec : CrdbNodeSpec) : Entries :=
  let v : Entries := []
  let v := v.putEntries "image" (Entries.putText? [] "name" spec.image)
  let v := v.put "regions" (.seq [.map (regionValues o target code)])
  let v := v.putEntries "service" (serviceValues spec)
  let v := v.putObject "localityLabels" (.list .text) spec.localityLabels
  let v := v.putText? "loggingConfigMapName" spec.loggingConfigMapName
  let v := v.putObject "flags" ExtraFlags.codec spec.flags
  let v := v.putEntries "dataStore" ((spec.dataStores.head?.map storeValues).getD [])
  let v := v.putObject? "walFailoverSpec" WalFailoverSpec.codec spec.walFailoverSpec
  let v := v.putObject? "resources" Schema.resourceRequirements.codec spec.resourceRequirements
  let v := v.putObject "tolerations" (.list Schema.toleration.codec) spec.tolerations
  let v := v.putObject "nodeSelector" Labels.codec spec.nodeSelector
  let v := v.putObject? "affinity" Affinity.codec spec.affinity
  let v := v.putObject "topologySpreadConstraints"
    (.list Schema.topologySpreadConstraint.codec) spec.topologySpreadConstraints
  let v := v.putObject "podLabels" Labels.codec spec.podLabels
  let v := v.putObject "podAnnotations" Labels.codec spec.podAnnotations
  v.putText? "terminationGracePeriod"
    (spec.terminationGracePeriodSeconds.map fun seconds => s!"{seconds.toInt}s")

def tlsValues (trust : TrustMap) : Entries :=
  let tls : Entries := []
  let tls := tls.putBool "enabled" !trust.isEmpty
  match externalCertificates trust with
  | some names =>
    let external : Entries := []
    let external := external.putBool "enabled" true
    tls.putEntries "externalCertificates"
      (external.putObject "certificates" ExternalCertificates.codec names)
  | none => tls

def values (o : ClusterObservation) (nodes : List CrdbNode) (trust : TrustMap) (target : Target) :
    Outcome Yaml.Value := do
  let first ← required (.validation .nothingToDescribe) nodes.head?
  let code ← regionCode o target
  let root : Entries := []
  let root := root.putText? "clusterDomain" target.clusterDomain
  let root := root.putEntries "tls" (tlsValues trust)
  let root := root.putEntries "crdbCluster" (clusterValues o target code first.spec)
  return .map (Entries.putEntries [] "cockroachdb" root)

/-! ## Files -/

def nodeFile (index : Nat) (node : CrdbNode) : ManifestFile :=
  ⟨s!"crdbnode-{index}.yaml", [CrdbNode.codec.write node]⟩

/-- The files of CrdbNodes and values: one for each node, then the values. -/
def manifests (nodes : List CrdbNode) (values : Yaml.Value) : List ManifestFile :=
  nodes.zipIdx.map (fun (node, index) => nodeFile index node) ++ [⟨"values.yaml", [values]⟩]

def files (o : ClusterObservation) (trust : TrustMap) (target : Target) :
    Outcome (List ManifestFile) := do
  let nodes ← o.nodes.mapM fun n => node o n trust target
  let values ← values o nodes trust target
  return manifests nodes values

end CrdbNodes

end Handover
