import Handover.Observation.Basic

/-!
# Observing a cluster

An inventory is turned into an observation. A node that cannot be read ends the whole
observation.
-/

namespace Handover

open Kubernetes

/-! ## Policy -/

/-- The variables that a user has set. -/
def userEnv (env : List EnvVar) : List EnvVar :=
  env.filter fun e => !Names.managedEnv.contains e.name

/-- The labels that a user has set. -/
def userLabels (labels : Labels) : Labels :=
  labels.filter fun key _ => !Names.managedLabels.contains key

def PodPolicy.ofTemplate (template : PodTemplate) (spec : PodSpec) (container : Container) :
    PodPolicy where
  image := container.image
  serviceAccountName := spec.serviceAccountName
  terminationGracePeriodSeconds := spec.terminationGracePeriodSeconds
  tolerations := spec.tolerations.getD []
  nodeSelector := spec.nodeSelector.getD .empty
  affinity := spec.affinity
  topologySpreadConstraints := spec.topologySpreadConstraints.getD []
  resources := container.resources
  env := userEnv (container.env.getD [])
  labels := userLabels ((template.metadata.bind (·.labels)).getD .empty)
  annotations := (template.metadata.bind (·.annotations)).getD .empty

def PodPolicy.ofCrdbNode (spec : CrdbNodeSpec) : PodPolicy where
  image := spec.image
  serviceAccountName := spec.serviceAccountName
  terminationGracePeriodSeconds := spec.terminationGracePeriodSeconds
  tolerations := spec.tolerations
  nodeSelector := spec.nodeSelector
  affinity := spec.affinity
  topologySpreadConstraints := spec.topologySpreadConstraints
  resources := spec.resourceRequirements
  env := userEnv spec.env
  labels := userLabels spec.podLabels
  annotations := spec.podAnnotations

/-! ## Declared volumes -/

def Kubernetes.DataStore.template (store : DataStore) : ClaimTemplate where
  name := store.volumeClaimTemplate.metadata.name.getD store.name
  storageClass := store.volumeClaimTemplate.spec.bind (·.storageClassName)

/-- The volumes that a CrdbNode declares: those of its stores, or the default one, and the one
for failover. -/
def Kubernetes.CrdbNodeSpec.templates (spec : CrdbNodeSpec) : List ClaimTemplate :=
  let stores := spec.dataStores.map DataStore.template
  (if stores.isEmpty then [{ name := Names.dataVolume }] else stores)
    ++ (spec.walFailoverSpec.map fun wal =>
      ({ name := wal.name, storageClass := wal.storageClassName } : ClaimTemplate)).toList

/-! ## Nodes -/

def Kubernetes.Pod.logging? (pod : Pod) : Option LoggingRef := do
  let volume ← (← pod.spec).volume? Names.logVolume
  match volume.secret with
  | some secret => secret.secretName.map .secret
  | none => volume.configMap.map fun c => .configMap c.name

/-- The database container of a pod. -/
def databaseContainer (pod : Pod) (preferred : String) : Outcome Container :=
  required (.notFound "Container" s!"{pod.metadata.nameText}/{preferred}")
    (pod.spec.bind (·.container? preferred))

/-- What one pod runs with. -/
def observeNode (container : String) (claims : KeyMap String Claim) (index : Nat) (pod : Pod)
    (templates : List ClaimTemplate) : Outcome NodeObservation := do
  let podName := pod.metadata.nameText
  let container ← databaseContainer pod container
  let flags ← StartCommand.parse container.startCommand
  let walFailover ← WalFailover.classify flags.walFailover flags.storeCount
  let storage ← Storage.resolve index pod container templates claims
  let failover ← Storage.failover index podName walFailover storage
  return {
    index, podName, flags, walFailover, storage, failover
    host := (pod.spec.bind (·.nodeName)).getD "" }

/-! ## Clusters -/

/-- What holds for the cluster as a whole, and the volumes that its nodes declare. -/
structure Declared where
  source : Source
  policy : PodPolicy
  logging : Option LoggingRef
  certificates : Option ExternalCertificates
  /-- The volumes of the node with a number. -/
  templates : Nat → List ClaimTemplate

/-- What a controller declares. -/
def declared (inventory : Inventory) (firstPod : Pod) : Outcome Declared :=
  match inventory.controller with
  | .statefulSet s => do
    let spec ← required (.notFound "StatefulSetSpec" inventory.cluster) s.spec
    let podSpec ← required (.notFound "PodTemplateSpec" inventory.cluster) spec.template.spec
    let container ← required (.notFound "Container" Names.legacyContainer)
      (podSpec.container? Names.legacyContainer)
    let templates := ClaimTemplate.ofClaims (spec.volumeClaimTemplates.getD [])
    return {
      source := .statefulSet
      policy := .ofTemplate spec.template podSpec container
      logging := firstPod.logging?
      certificates := none
      templates := fun _ => templates }
  | .crdbNodes nodes =>
    let spec (index : Nat) : CrdbNodeSpec := (nodes[index]?.map (·.spec)).getD {}
    let first := spec 0
    return {
      source := .crdbNode
      policy := .ofCrdbNode first
      logging := first.loggingConfigMapName.map .configMap
      certificates := first.certificates.bind (·.externalCertificates)
      templates := fun index => (spec index).templates }

def containerOf : Source → String
  | .statefulSet => Names.legacyContainer
  | .crdbNode => Names.operatorContainer

/-- What a cluster does. -/
def observe (inventory : Inventory) : Outcome ClusterObservation := do
  match inventory.pods with
  | [] => missing "Pod" (Names.nodeName inventory.cluster 0)
  | pod :: pods =>
    let d ← declared inventory pod
    let node (index : Nat) (pod : Pod) : Outcome NodeObservation :=
      observeNode (containerOf d.source) inventory.claims index pod (d.templates index)
    let first ← node 0 pod
    let others ← (pods.zipIdx 1).mapM fun (pod, index) => node index pod
    return {
      cluster := inventory.cluster
      ns := inventory.ns
      source := d.source
      secure := !first.flags.insecure
      logging := d.logging
      certificates := d.certificates
      policy := d.policy
      publicService := inventory.publicService
      first, others }

end Handover
