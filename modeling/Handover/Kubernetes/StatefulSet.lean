import Handover.Kubernetes.Claim
import Handover.Kubernetes.Pod

/-!
# StatefulSets
-/

namespace Handover.Kubernetes

open Yaml Yaml.Fields

/-- The pods that a controller makes. -/
structure PodTemplate where
  metadata : Option ObjectMeta := none
  spec : Option PodSpec := none
  deriving DecidableEq, Repr, Inhabited

def PodTemplate.codec : Codec PodTemplate := .record
  (fun fs => do
    return {
      metadata := ← fs.optional "metadata" ObjectMeta.codec
      spec := ← fs.optional "spec" PodSpec.codec })
  (fun t => opt "metadata" ObjectMeta.codec t.metadata ++ opt "spec" PodSpec.codec t.spec)

/-- How many pods there are, and what each of them is. -/
structure StatefulSetSpec where
  minReadySeconds : Option Int32 := none
  ordinals : Option Value := none
  persistentVolumeClaimRetentionPolicy : Option Value := none
  podManagementPolicy : Option String := none
  replicas : Option Int32 := none
  revisionHistoryLimit : Option Int32 := none
  selector : Value := .map []
  serviceName : String := ""
  template : PodTemplate := {}
  updateStrategy : Option Value := none
  volumeClaimTemplates : Option (List Claim) := none
  deriving DecidableEq, Repr, Inhabited

def StatefulSetSpec.codec : Codec StatefulSetSpec := .record
  (fun fs => do
    return {
      minReadySeconds := ← fs.optional "minReadySeconds" .int32
      ordinals := ← fs.optional "ordinals" Schema.statefulSetOrdinals.codec
      persistentVolumeClaimRetentionPolicy := ← fs.optional
        "persistentVolumeClaimRetentionPolicy" Schema.claimRetentionPolicy.codec
      podManagementPolicy := ← fs.optional "podManagementPolicy" .text
      replicas := ← fs.optional "replicas" .int32
      revisionHistoryLimit := ← fs.optional "revisionHistoryLimit" .int32
      selector := ← fs.withDefault "selector" Schema.labelSelector.codec (.map [])
      serviceName := ← fs.withDefault "serviceName" .text ""
      template := ← fs.withDefault "template" PodTemplate.codec {}
      updateStrategy := ← fs.optional "updateStrategy" Schema.updateStrategy.codec
      volumeClaimTemplates := ← fs.optional "volumeClaimTemplates" (.list Claim.codec) })
  (fun s =>
    opt "minReadySeconds" .int32 s.minReadySeconds
    ++ opt "ordinals" Schema.statefulSetOrdinals.codec s.ordinals
    ++ opt "persistentVolumeClaimRetentionPolicy" Schema.claimRetentionPolicy.codec
      s.persistentVolumeClaimRetentionPolicy
    ++ opt "podManagementPolicy" .text s.podManagementPolicy
    ++ opt "replicas" .int32 s.replicas
    ++ opt "revisionHistoryLimit" .int32 s.revisionHistoryLimit
    ++ one "selector" Schema.labelSelector.codec s.selector
    ++ one "serviceName" .text s.serviceName
    ++ one "template" PodTemplate.codec s.template
    ++ opt "updateStrategy" Schema.updateStrategy.codec s.updateStrategy
    ++ opt "volumeClaimTemplates" (.list Claim.codec) s.volumeClaimTemplates)

/-- A controller of numbered pods. -/
structure StatefulSet where
  metadata : ObjectMeta := {}
  spec : Option StatefulSetSpec := none
  status : Option Value := none
  deriving DecidableEq, Repr, Inhabited

def StatefulSet.codec : Codec StatefulSet := .object "apps/v1" "StatefulSet"
  (fun fs => do
    return {
      metadata := ← metadataOf fs
      spec := ← fs.optional "spec" StatefulSetSpec.codec
      status := ← fs.optional "status" Schema.statefulSetStatus.codec })
  (fun s =>
    one "metadata" ObjectMeta.codec s.metadata
    ++ opt "spec" StatefulSetSpec.codec s.spec
    ++ opt "status" Schema.statefulSetStatus.codec s.status)

end Handover.Kubernetes
