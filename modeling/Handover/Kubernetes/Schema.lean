import Handover.Yaml.Shape

/-!
# Shapes of object parts

The parts of objects that the library carries along without looking into them.
-/

namespace Handover.Kubernetes.Schema

open Yaml Yaml.Shape

def texts : Shape := .list .text

/-- A map of amounts such as `100Gi`, each kept as it is spelled. -/
def amounts : Shape := .map .text

/-! ## Metadata -/

def ownerReference : Shape := .record [
  req "apiVersion" .text,
  opt "blockOwnerDeletion" .bool,
  opt "controller" .bool,
  req "kind" .text,
  req "name" .text,
  req "uid" .text]

def managedFieldsEntry : Shape := .record [
  opt "apiVersion" .text,
  opt "fieldsType" .text,
  opt "fieldsV1" .any,
  opt "manager" .text,
  opt "operation" .text,
  opt "subresource" .text,
  opt "time" .time]

/-! ## Selection -/

def selectorRequirement : Shape := .record [
  req "key" .text,
  req "operator" .text,
  opt "values" texts]

def labelSelector : Shape := .record [
  opt "matchExpressions" (.list selectorRequirement),
  opt "matchLabels" (.map .text)]

def nodeSelectorTerm : Shape := .record [
  opt "matchExpressions" (.list selectorRequirement),
  opt "matchFields" (.list selectorRequirement)]

def nodeSelector : Shape := .record [
  req "nodeSelectorTerms" (.list nodeSelectorTerm)]

/-! ## Placement -/

def nodeAffinity : Shape := .record [
  opt "preferredDuringSchedulingIgnoredDuringExecution" (.list (.record [
    req "preference" nodeSelectorTerm,
    req "weight" .int32])),
  opt "requiredDuringSchedulingIgnoredDuringExecution" nodeSelector]

def podAffinityTerm : Shape := .record [
  opt "labelSelector" labelSelector,
  opt "matchLabelKeys" texts,
  opt "mismatchLabelKeys" texts,
  opt "namespaceSelector" labelSelector,
  opt "namespaces" texts,
  req "topologyKey" .text]

/-- Attraction to other pods; repulsion has the same shape. -/
def podAffinity : Shape := .record [
  opt "preferredDuringSchedulingIgnoredDuringExecution" (.list (.record [
    req "podAffinityTerm" podAffinityTerm,
    req "weight" .int32])),
  opt "requiredDuringSchedulingIgnoredDuringExecution" (.list podAffinityTerm)]

def toleration : Shape := .record [
  opt "effect" .text,
  opt "key" .text,
  opt "operator" .text,
  opt "tolerationSeconds" .int64,
  opt "value" .text]

def topologySpreadConstraint : Shape := .record [
  opt "labelSelector" labelSelector,
  opt "matchLabelKeys" texts,
  req "maxSkew" .int32,
  opt "minDomains" .int32,
  opt "nodeAffinityPolicy" .text,
  opt "nodeTaintsPolicy" .text,
  req "topologyKey" .text,
  req "whenUnsatisfiable" .text]

/-! ## Containers -/

def keySelector : Shape := .record [
  req "key" .text,
  req "name" .text,
  opt "optional" .bool]

def envVarSource : Shape := .record [
  opt "configMapKeyRef" keySelector,
  opt "fieldRef" (.record [
    opt "apiVersion" .text,
    req "fieldPath" .text]),
  opt "resourceFieldRef" (.record [
    opt "containerName" .text,
    opt "divisor" .text,
    req "resource" .text]),
  opt "secretKeyRef" keySelector]

def resourceRequirements : Shape := .record [
  opt "claims" (.list (.record [
    req "name" .text,
    opt "request" .text])),
  opt "limits" amounts,
  opt "requests" amounts]

/-! ## Volumes -/

def keyToPath : Shape := .record [
  req "key" .text,
  opt "mode" .int32,
  req "path" .text]

def emptyDirVolumeSource : Shape := .record [
  opt "medium" .text,
  opt "sizeLimit" .text]

def typedLocalObjectReference : Shape := .record [
  opt "apiGroup" .text,
  req "kind" .text,
  req "name" .text]

def typedObjectReference : Shape := .record [
  opt "apiGroup" .text,
  req "kind" .text,
  req "name" .text,
  opt "namespace" .text]

def claimStatus : Shape := .record [
  opt "accessModes" texts,
  opt "allocatedResourceStatuses" (.map .text),
  opt "allocatedResources" amounts,
  opt "capacity" amounts,
  opt "conditions" (.list (.record [
    opt "lastProbeTime" .time,
    opt "lastTransitionTime" .time,
    opt "message" .text,
    opt "reason" .text,
    req "status" .text,
    req "type" .text])),
  opt "currentVolumeAttributesClassName" .text,
  opt "modifyVolumeStatus" (.record [
    req "status" .text,
    opt "targetVolumeAttributesClassName" .text]),
  opt "phase" .text]

/-! ## Services -/

def sessionAffinityConfig : Shape := .record [
  opt "clientIP" (.record [
    opt "timeoutSeconds" .int32])]

def serviceStatus : Shape := .record [
  opt "conditions" (.list (.record [
    req "lastTransitionTime" .time,
    req "message" .text,
    opt "observedGeneration" .int64,
    req "reason" .text,
    req "status" .text,
    req "type" .text])),
  opt "loadBalancer" (.record [
    opt "ingress" (.list (.record [
      opt "hostname" .text,
      opt "ip" .text,
      opt "ipMode" .text,
      opt "ports" (.list (.record [
        opt "error" .text,
        req "port" .int32,
        req "protocol" .text]))]))])]

/-! ## Pods and their controllers -/

def podStatus : Shape := .record [
  opt "hostIP" .text,
  opt "message" .text,
  opt "nominatedNodeName" .text,
  opt "phase" .text,
  opt "podIP" .text,
  opt "qosClass" .text,
  opt "reason" .text,
  opt "startTime" .time]

def statefulSetOrdinals : Shape := .record [
  opt "start" .int32]

def claimRetentionPolicy : Shape := .record [
  opt "whenDeleted" .text,
  opt "whenScaled" .text]

def updateStrategy : Shape := .record [
  opt "rollingUpdate" (.record [
    opt "maxUnavailable" .intOrText,
    opt "partition" .int32]),
  opt "type" .text]

def statefulSetStatus : Shape := .record [
  opt "availableReplicas" .int32,
  opt "collisionCount" .int32,
  opt "conditions" (.list (.record [
    opt "lastTransitionTime" .time,
    opt "message" .text,
    opt "reason" .text,
    req "status" .text,
    req "type" .text])),
  opt "currentReplicas" .int32,
  opt "currentRevision" .text,
  opt "observedGeneration" .int64,
  opt "readyReplicas" .int32,
  req "replicas" .int32,
  opt "updateRevision" .text,
  opt "updatedReplicas" .int32]

end Handover.Kubernetes.Schema
