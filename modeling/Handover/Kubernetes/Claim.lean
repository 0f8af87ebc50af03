import Handover.Kubernetes.Metadata

/-!
# Claims on storage
-/

namespace Handover.Kubernetes

open Yaml Yaml.Fields

/-- The storage that a claim asks for, by the name of the resource. -/
structure VolumeResources where
  limits : Option Labels := none
  requests : Option Labels := none
  deriving DecidableEq, Repr, Inhabited

def VolumeResources.codec : Codec VolumeResources := .record
  (fun fs => do
    return {
      limits := ← fs.optional "limits" Labels.codec
      requests := ← fs.optional "requests" Labels.codec })
  (fun r => opt "limits" Labels.codec r.limits ++ opt "requests" Labels.codec r.requests)

/-- What a claim asks for and the volume it is bound to. -/
structure ClaimSpec where
  accessModes : Option (List String) := none
  dataSource : Option Value := none
  dataSourceRef : Option Value := none
  resources : Option VolumeResources := none
  selector : Option Value := none
  storageClassName : Option String := none
  volumeAttributesClassName : Option String := none
  volumeMode : Option String := none
  volumeName : Option String := none
  deriving DecidableEq, Repr, Inhabited

namespace ClaimSpec

def codec : Codec ClaimSpec := .record
  (fun fs => do
    return {
      accessModes := ← fs.optional "accessModes" (.list .text)
      dataSource := ← fs.optional "dataSource" Schema.typedLocalObjectReference.codec
      dataSourceRef := ← fs.optional "dataSourceRef" Schema.typedObjectReference.codec
      resources := ← fs.optional "resources" VolumeResources.codec
      selector := ← fs.optional "selector" Schema.labelSelector.codec
      storageClassName := ← fs.optional "storageClassName" .text
      volumeAttributesClassName := ← fs.optional "volumeAttributesClassName" .text
      volumeMode := ← fs.optional "volumeMode" .text
      volumeName := ← fs.optional "volumeName" .text })
  (fun s =>
    opt "accessModes" (.list .text) s.accessModes
    ++ opt "dataSource" Schema.typedLocalObjectReference.codec s.dataSource
    ++ opt "dataSourceRef" Schema.typedObjectReference.codec s.dataSourceRef
    ++ opt "resources" VolumeResources.codec s.resources
    ++ opt "selector" Schema.labelSelector.codec s.selector
    ++ opt "storageClassName" .text s.storageClassName
    ++ opt "volumeAttributesClassName" .text s.volumeAttributesClassName
    ++ opt "volumeMode" .text s.volumeMode
    ++ opt "volumeName" .text s.volumeName)

def storage? (s : ClaimSpec) : Option String :=
  (s.resources.bind (·.requests)).bind (·.get? "storage")

end ClaimSpec

/-- A claim on a volume. -/
structure Claim where
  metadata : ObjectMeta := {}
  spec : Option ClaimSpec := none
  status : Option Value := none
  deriving DecidableEq, Repr, Inhabited

def Claim.codec : Codec Claim := .object "v1" "PersistentVolumeClaim"
  (fun fs => do
    return {
      metadata := ← metadataOf fs
      spec := ← fs.optional "spec" ClaimSpec.codec
      status := ← fs.optional "status" Schema.claimStatus.codec })
  (fun c =>
    one "metadata" ObjectMeta.codec c.metadata
    ++ opt "spec" ClaimSpec.codec c.spec
    ++ opt "status" Schema.claimStatus.codec c.status)

end Handover.Kubernetes
