import Handover.Kubernetes.Claim
import Handover.Kubernetes.Pod
import Handover.StartCommand.ExtraFlags

/-!
# CrdbNodes

One node of a cluster under the operator. Unlike the other objects a CrdbNode must state its
type, its metadata and its specification, and it is written without the fields that are empty.
-/

namespace Handover.Kubernetes

open Yaml Yaml.Fields

/-- A field that holds several things, unless there is none. -/
def many {α : Type} (name : String) (c : Codec α) (empty : Bool) (a : α) : Fields :=
  if empty then [] else one name c a

/-- The names of trust material that others provide. -/
structure ExternalCertificates where
  caConfigMapName : String := ""
  nodeSecretName : String := ""
  rootSqlClientSecretName : String := ""
  deriving DecidableEq, Repr, Inhabited

def ExternalCertificates.codec : Codec ExternalCertificates := .record
  (fun fs => do
    return {
      caConfigMapName := ← fs.required "caConfigMapName" .text
      nodeSecretName := ← fs.required "nodeSecretName" .text
      rootSqlClientSecretName := ← fs.required "rootSqlClientSecretName" .text })
  (fun c =>
    one "caConfigMapName" .text c.caConfigMapName
    ++ one "nodeSecretName" .text c.nodeSecretName
    ++ one "rootSqlClientSecretName" .text c.rootSqlClientSecretName)

/-- Where a node's trust material comes from. -/
structure Certificates where
  externalCertificates : Option ExternalCertificates := none
  deriving DecidableEq, Repr, Inhabited

def Certificates.codec : Codec Certificates := .record
  (fun fs => do
    return {
      externalCertificates := ← fs.optional "externalCertificates" ExternalCertificates.codec })
  (fun c => opt "externalCertificates" ExternalCertificates.codec c.externalCertificates)

/-- A store of a node: the volume it lies on, its path there, and its other settings. -/
structure DataStore where
  name : String := ""
  path : Option String := none
  options : List String := []
  volumeClaimTemplate : Claim := {}
  deriving DecidableEq, Repr, Inhabited

def DataStore.codec : Codec DataStore := .record
  (fun fs => do
    return {
      name := ← fs.required "name" .text
      path := ← fs.optional "path" .text
      options := ← fs.unlessAbsent "options" (.list .text) []
      volumeClaimTemplate := ← fs.required "volumeClaimTemplate" Claim.codec })
  (fun s =>
    one "name" .text s.name
    ++ opt "path" .text s.path
    ++ many "options" (.list .text) s.options.isEmpty s.options
    ++ one "volumeClaimTemplate" Claim.codec s.volumeClaimTemplate)

/-- The volume for WAL failover; it stays attached also when its status is `disable`. -/
structure WalFailoverSpec where
  status : String := ""
  name : String := ""
  path : String := ""
  size : String := ""
  storageClassName : Option String := none
  deriving DecidableEq, Repr, Inhabited

def WalFailoverSpec.codec : Codec WalFailoverSpec := .record
  (fun fs => do
    return {
      status := ← fs.required "status" .text
      name := ← fs.required "name" .text
      path := ← fs.required "path" .text
      size := ← fs.required "size" .text
      storageClassName := ← fs.optional "storageClassName" .text })
  (fun w =>
    one "status" .text w.status
    ++ one "name" .text w.name
    ++ one "path" .text w.path
    ++ one "size" .text w.size
    ++ opt "storageClassName" .text w.storageClassName)

/-- How one node runs. -/
structure CrdbNodeSpec where
  nodeName : Option String := none
  join : String := ""
  grpcPort : Option Int32 := none
  sqlPort : Option Int32 := none
  httpPort : Option Int32 := none
  localityLabels : List String := []
  loggingConfigMapName : Option String := none
  certificates : Option Certificates := none
  dataStores : List DataStore := []
  walFailoverSpec : Option WalFailoverSpec := none
  flags : ExtraFlags := {}
  env : List EnvVar := []
  resourceRequirements : Option Value := none
  serviceAccountName : Option String := none
  podLabels : Labels := .empty
  podAnnotations : Labels := .empty
  tolerations : List Value := []
  nodeSelector : Labels := .empty
  affinity : Option Affinity := none
  topologySpreadConstraints : List Value := []
  terminationGracePeriodSeconds : Option Int64 := none
  image : Option String := none
  deriving DecidableEq, Repr, Inhabited

def CrdbNodeSpec.codec : Codec CrdbNodeSpec := .record
  (fun fs => do
    return {
      nodeName := ← fs.optional "nodeName" .text
      join := ← fs.unlessAbsent "join" .text ""
      grpcPort := ← fs.optional "grpcPort" .int32
      sqlPort := ← fs.optional "sqlPort" .int32
      httpPort := ← fs.optional "httpPort" .int32
      localityLabels := ← fs.unlessAbsent "localityLabels" (.list .text) []
      loggingConfigMapName := ← fs.optional "loggingConfigMapName" .text
      certificates := ← fs.optional "certificates" Certificates.codec
      dataStores := ← fs.unlessAbsent "dataStores" (.list DataStore.codec) []
      walFailoverSpec := ← fs.optional "walFailoverSpec" WalFailoverSpec.codec
      flags := ← fs.unlessAbsent "flags" ExtraFlags.codec {}
      env := ← fs.unlessAbsent "env" (.list EnvVar.codec) []
      resourceRequirements :=
        ← fs.optional "resourceRequirements" Schema.resourceRequirements.codec
      serviceAccountName := ← fs.optional "serviceAccountName" .text
      podLabels := ← fs.unlessAbsent "podLabels" Labels.codec .empty
      podAnnotations := ← fs.unlessAbsent "podAnnotations" Labels.codec .empty
      tolerations := ← fs.unlessAbsent "tolerations" (.list Schema.toleration.codec) []
      nodeSelector := ← fs.unlessAbsent "nodeSelector" Labels.codec .empty
      affinity := ← fs.optional "affinity" Affinity.codec
      topologySpreadConstraints := ← fs.unlessAbsent "topologySpreadConstraints"
        (.list Schema.topologySpreadConstraint.codec) []
      terminationGracePeriodSeconds := ← fs.optional "terminationGracePeriodSeconds" .int64
      image := ← fs.optional "image" .text })
  (fun s =>
    opt "nodeName" .text s.nodeName
    ++ many "join" .text s.join.isEmpty s.join
    ++ opt "grpcPort" .int32 s.grpcPort
    ++ opt "sqlPort" .int32 s.sqlPort
    ++ opt "httpPort" .int32 s.httpPort
    ++ many "localityLabels" (.list .text) s.localityLabels.isEmpty s.localityLabels
    ++ opt "loggingConfigMapName" .text s.loggingConfigMapName
    ++ opt "certificates" Certificates.codec s.certificates
    ++ many "dataStores" (.list DataStore.codec) s.dataStores.isEmpty s.dataStores
    ++ opt "walFailoverSpec" WalFailoverSpec.codec s.walFailoverSpec
    ++ many "flags" ExtraFlags.codec s.flags.isEmpty s.flags
    ++ many "env" (.list EnvVar.codec) s.env.isEmpty s.env
    ++ opt "resourceRequirements" Schema.resourceRequirements.codec s.resourceRequirements
    ++ opt "serviceAccountName" .text s.serviceAccountName
    ++ many "podLabels" Labels.codec s.podLabels.isEmpty s.podLabels
    ++ many "podAnnotations" Labels.codec s.podAnnotations.isEmpty s.podAnnotations
    ++ many "tolerations" (.list Schema.toleration.codec) s.tolerations.isEmpty s.tolerations
    ++ many "nodeSelector" Labels.codec s.nodeSelector.isEmpty s.nodeSelector
    ++ opt "affinity" Affinity.codec s.affinity
    ++ many "topologySpreadConstraints" (.list Schema.topologySpreadConstraint.codec)
      s.topologySpreadConstraints.isEmpty s.topologySpreadConstraints
    ++ opt "terminationGracePeriodSeconds" .int64 s.terminationGracePeriodSeconds
    ++ opt "image" .text s.image)

/-- The version under which the operator knows its objects. -/
def operatorVersion : String := "crdb.cockroachlabs.com/v1alpha1"

/-- One node of a cluster under the operator. -/
structure CrdbNode where
  apiVersion : String := operatorVersion
  kind : String := "CrdbNode"
  metadata : ObjectMeta := {}
  spec : CrdbNodeSpec := {}
  deriving DecidableEq, Repr, Inhabited

namespace CrdbNode

/-- The codec of CrdbNodes. The type may be any text, but it must be there. -/
def codec : Codec CrdbNode := .record
  (fun fs => do
    return {
      apiVersion := ← fs.required "apiVersion" .text
      kind := ← fs.required "kind" .text
      metadata := ← fs.required "metadata" ObjectMeta.codec
      spec := ← fs.required "spec" CrdbNodeSpec.codec })
  (fun n =>
    one "apiVersion" .text n.apiVersion
    ++ one "kind" .text n.kind
    ++ one "metadata" ObjectMeta.codec n.metadata
    ++ one "spec" CrdbNodeSpec.codec n.spec)

/-- The name, empty when there is none. -/
def name (n : CrdbNode) : String := n.metadata.nameText

end CrdbNode

end Handover.Kubernetes
