import Handover.Manifest.Values
import Handover.StartCommand.Store
import Handover.Synthesis.Rbac
import Handover.Trust

/-!
# A cluster as a StatefulSet

Each node's claims are written with the names that a StatefulSet looks for, bound to the volumes
that hold the data. Everything else is one set of chart values, for which the first node stands.
-/

namespace Handover

open Kubernetes Manifest

namespace LegacyChart

/-! ## Claims -/

/-- Refuse a node that runs with other flags than the first one. -/
def checkUniform (first node : NodeObservation) : Outcome Unit :=
  if node.flags = first.flags then .ok ()
  else .error (.validation (.differentFlags node.index node.podName))

def chartLabels (cluster : String) : Labels := .of [
  ("app.kubernetes.io/instance", cluster), ("app.kubernetes.io/name", "cockroachdb")]

def podSelector (cluster : String) : Labels := .of [
  ("app.kubernetes.io/component", "cockroachdb"),
  ("app.kubernetes.io/instance", cluster),
  ("app.kubernetes.io/name", "cockroachdb")]

/-- A claim under the name that a StatefulSet looks for, bound to the volume with the data. The
claim that the node mounts must have that name already. -/
def boundClaim (o : ClusterObservation) (node : NodeObservation) (d : StorageDescriptor) :
    Outcome Claim :=
  let expected := Names.claimName d.name node.podName
  if d.claimName = expected then
    .ok {
      metadata := {
        name := some expected
        ns := some o.ns
        labels := some (chartLabels o.cluster) }
      spec := some {
        accessModes := if d.accessModes.isEmpty then none else some d.accessModes
        storageClassName := d.storageClass
        volumeName := d.volumeName
        resources := some { requests := some (.of [("storage", d.size)]) } } }
  else .error (.validation (.foreignClaim node.index d.claimName expected))

/-- The claims of a node, one for each of its volumes. -/
def claims (o : ClusterObservation) (node : NodeObservation) : Outcome (List Claim) :=
  node.storage.mapM (boundClaim o node)

/-! ## Parts of the values -/

/-- An image as its repository and its tag. The colon of a registry's port starts no tag, and an
image by digest has none. -/
def splitImage (image : String) : String × Option String :=
  if image.toList.contains '@' then (image, none)
  else
    match Text.cutLast? ':' image with
    | some (repository, tag) =>
      if tag.toList.contains '/' then (image, none) else (repository, some tag)
    | none => (image, none)

def imageValues (image : Option String) : Entries :=
  match image with
  | some image =>
    let (repository, tag) := splitImage image
    (Entries.putText [] "repository" repository).putText? "tag" tag
  | none => []

def volumeValues (d : StorageDescriptor) : Entries :=
  let volume : Entries := []
  let volume := volume.putBool "enabled" true
  let volume := volume.putText "size" d.size
  volume.putText? "storageClass" d.storageClass

/-- The fields that all stores of a node share besides their paths: those of the last store,
when every store has the fields of the one before it. -/
def sharedOptions (index : Nat) : List (List String) → Outcome (List String)
  | [] => .ok []
  | [options] => .ok options
  | seen :: options :: rest =>
    if seen = options then sharedOptions index (options :: rest)
    else .error (.validation (.storesDiffer index seen options))

def putStoreField (index : Nat) (fields : Entries) (option : String) : Outcome Entries :=
  let (key, value) := (Text.cutFirst? '=' option).getD (option, "")
  if key = "attrs" ∨ key = "size" then .ok (fields.putText key value)
  else .error (.validation (.unknownStoreField index key))

/-- The values of the stores of a node, of which there are as many as data volumes. -/
def storeValues (node : NodeObservation) : Outcome Entries := do
  let options ← sharedOptions node.index (node.flags.stores.map StartCommand.storeOptions)
  let fields ← options.foldlM (putStoreField node.index) []
  let volumes := node.dataStorage.length
  if 1 < volumes ∨ fields ≠ [] then
    let block : Entries := Entries.putBool [] "enabled" true
    let block := if 1 < volumes then block.putNumber "count" volumes else block
    return block ++ fields
  else return []

def walFailoverValues (node : NodeObservation) : Entries :=
  let wal : Entries :=
    if node.walFailover = .disabled then []
    else Entries.putText [] "value" node.walFailover.flagValue
  match node.failover.or node.failoverVolume? with
  | some d => wal.putEntries "persistentVolume" (volumeValues d)
  | none => wal

def serviceAccountName (o : ClusterObservation) : String :=
  o.policy.serviceAccountName.getD o.cluster

/-! ## Values -/

def podValues (o : ClusterObservation) : Entries :=
  let p := o.policy
  let v : Entries := []
  let v := v.putNumber "replicas" o.nodes.length
  let v := v.putObject "args" (.list .text) o.flags.extra.toArgs
  let v := v.putObject "labels" Labels.codec p.labels
  let v := v.putObject "annotations" Labels.codec p.annotations
  let v := v.putObject "env" (.list EnvVar.codec) p.env
  let v := v.putObject? "resources" Schema.resourceRequirements.codec p.resources
  let v := v.putObject "tolerations" (.list Schema.toleration.codec) p.tolerations
  let v := v.putObject "nodeSelector" Labels.codec p.nodeSelector
  let affinity := p.affinity.getD {}
  let v := v.putObject? "nodeAffinity" Schema.nodeAffinity.codec affinity.nodeAffinity
  let v := v.putObject? "podAffinity" Schema.podAffinity.codec affinity.podAffinity
  let v := v.putObject? "podAntiAffinity" Schema.podAffinity.codec affinity.podAntiAffinity
  let v := v.putObject "topologySpreadConstraints"
    (.list Schema.topologySpreadConstraint.codec) p.topologySpreadConstraints
  let v := v.putObject? "terminationGracePeriodSeconds" .int64 p.terminationGracePeriodSeconds
  v.putEntries "serviceAccount"
    ((Entries.putBool [] "create" false).putText "name" (serviceAccountName o))

def portValues (port : UInt16) : Entries := Entries.putNumber [] "port" port.toNat

def serviceValues (flags : StartFlags) : Entries :=
  let grpc : Entries := []
  let grpc := grpc.putEntries "external" (portValues flags.sqlPort)
  let grpc := grpc.putEntries "internal" (portValues flags.grpcPort)
  let ports : Entries := []
  let ports := ports.putEntries "grpc" grpc
  let ports := ports.putEntries "http" (portValues flags.httpPort)
  Entries.putEntries [] "ports" ports

def logValues (logging : Option LoggingRef) : Entries :=
  match logging with
  | some ref => (Entries.putBool [] "enabled" true).putText "existingConfigMap" ref.name
  | none => []

def confValues (o : ClusterObservation) : Outcome Entries := do
  let store ← storeValues o.first
  let v : Entries := []
  let v := v.putObject "join" (.list .text) o.flags.join
  let v := v.putText? "locality" o.flags.localityFlag?
  let v := v.putEntries "wal-failover" (walFailoverValues o.first)
  let v := v.putEntries "store" store
  return v.putEntries "log" (logValues o.logging)

/-- The values of storage, for which the first data volume stands. -/
def storageValues (node : NodeObservation) : Entries :=
  match node.dataStorage.head? with
  | some d => Entries.putEntries [] "persistentVolume" (volumeValues d)
  | none => []

def tlsValues (trust : TrustMap) : Entries :=
  let tls := Entries.putBool [] "enabled" !trust.isEmpty
  if trust.isEmpty then tls
  else
    let certs : Entries := []
    let certs := certs.putBool "provided" true
    let certs := certs.putText "nodeSecret" (trust.targetName .node)
    let certs := certs.putText "clientRootSecret" (trust.targetName .client)
    tls.putEntries "certs" certs

def values (o : ClusterObservation) (trust : TrustMap) (target : Target) :
    Outcome Yaml.Value := do
  let conf ← confValues o
  let v : Entries := []
  let v := v.putText "fullnameOverride" o.cluster
  let v := v.putText? "clusterDomain" target.clusterDomain
  let v := v.putEntries "image" (imageValues (target.image.or o.policy.image))
  let v := v.putEntries "statefulset" (podValues o)
  let v := v.putEntries "service" (serviceValues o.flags)
  let v := v.putEntries "conf" conf
  let v := v.putEntries "storage" (storageValues o.first)
  return .map (v.putEntries "tls" (tlsValues trust))

/-! ## Public service -/

/-- The annotation in which a client keeps the object that it applied. -/
def lastApplied : String := "kubectl.kubernetes.io/last-applied-configuration"

/-- A port of the service that the source does not have. -/
def servicePort (name : String) (port : UInt16) : ServicePort where
  name := some name
  port := Int32.ofInt port.toNat
  targetPort := some (.named name)
  protocol := some "TCP"

/-- A service with its selector moved to the pods of the StatefulSet, without its addresses and
without what a server keeps. -/
def repoint (cluster : String) (s : Service) : Service where
  metadata := {
    name := s.metadata.name
    ns := s.metadata.ns
    labels := s.metadata.labels
    annotations := s.metadata.annotations.map (·.erase lastApplied) }
  spec := s.spec.map fun spec =>
    { spec with selector := some (podSelector cluster), clusterIP := none, clusterIPs := none }

/-- The service of a cluster that has none yet. -/
def freshService (o : ClusterObservation) : Service where
  metadata := {
    name := some (Names.publicService o.cluster)
    ns := some o.ns
    labels := some (chartLabels o.cluster) }
  spec := some {
    type := some "ClusterIP"
    ports := some [servicePort "grpc" o.flags.sqlPort, servicePort "http" o.flags.httpPort]
    selector := some (podSelector o.cluster) }

def publicService (o : ClusterObservation) : Service :=
  match o.publicService with
  | some s => repoint o.cluster s
  | none => freshService o

/-! ## Files -/

def rbac (o : ClusterObservation) : RbacBundle := .of o.cluster o.ns (serviceAccountName o)

def claimsFile (o : ClusterObservation) (node : NodeObservation) : Outcome ManifestFile := do
  return ⟨s!"persistentvolumeclaim-{node.index}.yaml",
    (← claims o node).map Claim.codec.write⟩

/-- The files of a cluster: one for each node's claims, then the values, the service and the
permissions. -/
def files (o : ClusterObservation) (trust : TrustMap) (target : Target) :
    Outcome (List ManifestFile) := do
  o.others.forM (checkUniform o.first)
  let claims ← o.nodes.mapM (claimsFile o)
  let values ← values o trust target
  return claims ++ [
    ⟨"values.yaml", [values]⟩,
    ⟨"public-service.yaml", [Service.codec.write (publicService o)]⟩,
    (rbac o).file]

end LegacyChart

end Handover
