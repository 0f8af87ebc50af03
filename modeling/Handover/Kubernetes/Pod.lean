import Handover.Kubernetes.Metadata

/-!
# Pods
-/

namespace Handover.Kubernetes

open Yaml Yaml.Fields

/-! ## Containers -/

/-- A variable of a container's environment. -/
structure EnvVar where
  name : String := ""
  value : Option String := none
  valueFrom : Option Value := none
  deriving DecidableEq, Repr, Inhabited

def EnvVar.codec : Codec EnvVar := .record
  (fun fs => do
    return {
      name := ← fs.withDefault "name" .text ""
      value := ← fs.optional "value" .text
      valueFrom := ← fs.optional "valueFrom" Schema.envVarSource.codec })
  (fun e =>
    one "name" .text e.name
    ++ opt "value" .text e.value
    ++ opt "valueFrom" Schema.envVarSource.codec e.valueFrom)

/-- A volume as a container sees it. -/
structure VolumeMount where
  mountPath : String := ""
  mountPropagation : Option String := none
  name : String := ""
  readOnly : Option Bool := none
  recursiveReadOnly : Option String := none
  subPath : Option String := none
  subPathExpr : Option String := none
  deriving DecidableEq, Repr, Inhabited

def VolumeMount.codec : Codec VolumeMount := .record
  (fun fs => do
    return {
      mountPath := ← fs.withDefault "mountPath" .text ""
      mountPropagation := ← fs.optional "mountPropagation" .text
      name := ← fs.withDefault "name" .text ""
      readOnly := ← fs.optional "readOnly" .bool
      recursiveReadOnly := ← fs.optional "recursiveReadOnly" .text
      subPath := ← fs.optional "subPath" .text
      subPathExpr := ← fs.optional "subPathExpr" .text })
  (fun m =>
    one "mountPath" .text m.mountPath
    ++ opt "mountPropagation" .text m.mountPropagation
    ++ one "name" .text m.name
    ++ opt "readOnly" .bool m.readOnly
    ++ opt "recursiveReadOnly" .text m.recursiveReadOnly
    ++ opt "subPath" .text m.subPath
    ++ opt "subPathExpr" .text m.subPathExpr)

/-- A container of a pod. -/
structure Container where
  args : Option (List String) := none
  command : Option (List String) := none
  env : Option (List EnvVar) := none
  image : Option String := none
  name : String := ""
  resources : Option Value := none
  volumeMounts : Option (List VolumeMount) := none
  deriving DecidableEq, Repr, Inhabited

namespace Container

def codec : Codec Container := .record
  (fun fs => do
    return {
      args := ← fs.optional "args" (.list .text)
      command := ← fs.optional "command" (.list .text)
      env := ← fs.optional "env" (.list EnvVar.codec)
      image := ← fs.optional "image" .text
      name := ← fs.withDefault "name" .text ""
      resources := ← fs.optional "resources" Schema.resourceRequirements.codec
      volumeMounts := ← fs.optional "volumeMounts" (.list VolumeMount.codec) })
  (fun c =>
    opt "args" (.list .text) c.args
    ++ opt "command" (.list .text) c.command
    ++ opt "env" (.list EnvVar.codec) c.env
    ++ opt "image" .text c.image
    ++ one "name" .text c.name
    ++ opt "resources" Schema.resourceRequirements.codec c.resources
    ++ opt "volumeMounts" (.list VolumeMount.codec) c.volumeMounts)

def startCommand (c : Container) : List String := c.command.getD [] ++ c.args.getD []

/-- The path at which the container mounts a volume, by its first mount. -/
def mountPath? (c : Container) (volume : String) : Option String :=
  ((c.volumeMounts.getD []).find? (·.name = volume)).map (·.mountPath)

end Container

/-! ## Volumes -/

/-- A claim as the source of a volume. -/
structure ClaimSource where
  claimName : String := ""
  readOnly : Option Bool := none
  deriving DecidableEq, Repr, Inhabited

def ClaimSource.codec : Codec ClaimSource := .record
  (fun fs => do
    return {
      claimName := ← fs.withDefault "claimName" .text ""
      readOnly := ← fs.optional "readOnly" .bool })
  (fun s => one "claimName" .text s.claimName ++ opt "readOnly" .bool s.readOnly)

/-- A Secret as the source of a volume. -/
structure SecretSource where
  defaultMode : Option Int32 := none
  items : Option (List Value) := none
  optional : Option Bool := none
  secretName : Option String := none
  deriving DecidableEq, Repr, Inhabited

def SecretSource.codec : Codec SecretSource := .record
  (fun fs => do
    return {
      defaultMode := ← fs.optional "defaultMode" .int32
      items := ← fs.optional "items" (.list Schema.keyToPath.codec)
      optional := ← fs.optional "optional" .bool
      secretName := ← fs.optional "secretName" .text })
  (fun s =>
    opt "defaultMode" .int32 s.defaultMode
    ++ opt "items" (.list Schema.keyToPath.codec) s.items
    ++ opt "optional" .bool s.optional
    ++ opt "secretName" .text s.secretName)

/-- A ConfigMap as the source of a volume. -/
structure ConfigMapSource where
  defaultMode : Option Int32 := none
  items : Option (List Value) := none
  name : String := ""
  optional : Option Bool := none
  deriving DecidableEq, Repr, Inhabited

def ConfigMapSource.codec : Codec ConfigMapSource := .record
  (fun fs => do
    return {
      defaultMode := ← fs.optional "defaultMode" .int32
      items := ← fs.optional "items" (.list Schema.keyToPath.codec)
      name := ← fs.withDefault "name" .text ""
      optional := ← fs.optional "optional" .bool })
  (fun s =>
    opt "defaultMode" .int32 s.defaultMode
    ++ opt "items" (.list Schema.keyToPath.codec) s.items
    ++ one "name" .text s.name
    ++ opt "optional" .bool s.optional)

/-- A volume that a pod declares. -/
structure Volume where
  configMap : Option ConfigMapSource := none
  emptyDir : Option Value := none
  name : String := ""
  persistentVolumeClaim : Option ClaimSource := none
  secret : Option SecretSource := none
  deriving DecidableEq, Repr, Inhabited

def Volume.codec : Codec Volume := .record
  (fun fs => do
    return {
      configMap := ← fs.optional "configMap" ConfigMapSource.codec
      emptyDir := ← fs.optional "emptyDir" Schema.emptyDirVolumeSource.codec
      name := ← fs.withDefault "name" .text ""
      persistentVolumeClaim := ← fs.optional "persistentVolumeClaim" ClaimSource.codec
      secret := ← fs.optional "secret" SecretSource.codec })
  (fun v =>
    opt "configMap" ConfigMapSource.codec v.configMap
    ++ opt "emptyDir" Schema.emptyDirVolumeSource.codec v.emptyDir
    ++ one "name" .text v.name
    ++ opt "persistentVolumeClaim" ClaimSource.codec v.persistentVolumeClaim
    ++ opt "secret" SecretSource.codec v.secret)

/-! ## Placement -/

/-- Where a pod may run, in its three parts. -/
structure Affinity where
  nodeAffinity : Option Value := none
  podAffinity : Option Value := none
  podAntiAffinity : Option Value := none
  deriving DecidableEq, Repr, Inhabited

def Affinity.codec : Codec Affinity := .record
  (fun fs => do
    return {
      nodeAffinity := ← fs.optional "nodeAffinity" Schema.nodeAffinity.codec
      podAffinity := ← fs.optional "podAffinity" Schema.podAffinity.codec
      podAntiAffinity := ← fs.optional "podAntiAffinity" Schema.podAffinity.codec })
  (fun a =>
    opt "nodeAffinity" Schema.nodeAffinity.codec a.nodeAffinity
    ++ opt "podAffinity" Schema.podAffinity.codec a.podAffinity
    ++ opt "podAntiAffinity" Schema.podAffinity.codec a.podAntiAffinity)

/-! ## Pods -/

/-- What a pod runs, and where. -/
structure PodSpec where
  affinity : Option Affinity := none
  containers : List Container := []
  nodeName : Option String := none
  nodeSelector : Option Labels := none
  serviceAccount : Option String := none
  serviceAccountName : Option String := none
  terminationGracePeriodSeconds : Option Int64 := none
  tolerations : Option (List Value) := none
  topologySpreadConstraints : Option (List Value) := none
  volumes : Option (List Volume) := none
  deriving DecidableEq, Repr, Inhabited

namespace PodSpec

def codec : Codec PodSpec := .record
  (fun fs => do
    return {
      affinity := ← fs.optional "affinity" Affinity.codec
      containers := ← fs.withDefault "containers" (.list Container.codec) []
      nodeName := ← fs.optional "nodeName" .text
      nodeSelector := ← fs.optional "nodeSelector" Labels.codec
      serviceAccount := ← fs.optional "serviceAccount" .text
      serviceAccountName := ← fs.optional "serviceAccountName" .text
      terminationGracePeriodSeconds := ← fs.optional "terminationGracePeriodSeconds" .int64
      tolerations := ← fs.optional "tolerations" (.list Schema.toleration.codec)
      topologySpreadConstraints :=
        ← fs.optional "topologySpreadConstraints" (.list Schema.topologySpreadConstraint.codec)
      volumes := ← fs.optional "volumes" (.list Volume.codec) })
  (fun s =>
    opt "affinity" Affinity.codec s.affinity
    ++ one "containers" (.list Container.codec) s.containers
    ++ opt "nodeName" .text s.nodeName
    ++ opt "nodeSelector" Labels.codec s.nodeSelector
    ++ opt "serviceAccount" .text s.serviceAccount
    ++ opt "serviceAccountName" .text s.serviceAccountName
    ++ opt "terminationGracePeriodSeconds" .int64 s.terminationGracePeriodSeconds
    ++ opt "tolerations" (.list Schema.toleration.codec) s.tolerations
    ++ opt "topologySpreadConstraints" (.list Schema.topologySpreadConstraint.codec)
      s.topologySpreadConstraints
    ++ opt "volumes" (.list Volume.codec) s.volumes)

/-- The container with a preferred name, or else the first one. -/
def container? (s : PodSpec) (preferred : String) : Option Container :=
  (s.containers.find? (·.name = preferred)).or s.containers.head?

/-- The first volume with a name. -/
def volume? (s : PodSpec) (name : String) : Option Volume :=
  (s.volumes.getD []).find? (·.name = name)

/-- The claim behind the first volume with a name. -/
def claimName? (s : PodSpec) (volume : String) : Option String :=
  ((s.volume? volume).bind (·.persistentVolumeClaim)).map (·.claimName)

/-- The claims behind all volumes, in their order. -/
def claimNames (s : PodSpec) : List String :=
  (s.volumes.getD []).filterMap fun v => v.persistentVolumeClaim.map (·.claimName)

end PodSpec

/-- A running pod. -/
structure Pod where
  metadata : ObjectMeta := {}
  spec : Option PodSpec := none
  status : Option Value := none
  deriving DecidableEq, Repr, Inhabited

def Pod.codec : Codec Pod := .object "v1" "Pod"
  (fun fs => do
    return {
      metadata := ← metadataOf fs
      spec := ← fs.optional "spec" PodSpec.codec
      status := ← fs.optional "status" Schema.podStatus.codec })
  (fun p =>
    one "metadata" ObjectMeta.codec p.metadata
    ++ opt "spec" PodSpec.codec p.spec
    ++ opt "status" Schema.podStatus.codec p.status)

end Handover.Kubernetes
