import Handover.Failure
import Handover.Kubernetes.Claim
import Handover.Kubernetes.Pod
import Handover.Names
import Handover.StartCommand.WalFailover

/-!
# Storage of a node

A controller declares volumes by templates. Which claim stands behind a template on a given pod
is settled in three steps: the pod's volume of that name, the claim that it refers to, and the
host on which the claim was provisioned.
-/

namespace Handover

open Kubernetes

/-- A volume that a controller declares. -/
structure ClaimTemplate where
  name : String
  storageClass : Option String := none
  deriving DecidableEq, Repr, Inhabited

namespace ClaimTemplate

/-- The template that a claim is; a claim without a name is none. -/
def ofClaim? (c : Claim) : Option ClaimTemplate :=
  c.metadata.name.map fun name => { name, storageClass := c.spec.bind (·.storageClassName) }

def ofClaims (claims : List Claim) : List ClaimTemplate := claims.filterMap ofClaim?

end ClaimTemplate

/-- A volume of a node with the claim behind it. -/
structure StorageDescriptor where
  name : String
  claimName : String
  size : String
  storageClass : Option String
  mountPath : String
  volumeName : Option String
  accessModes : List String
  deriving DecidableEq, Repr, Inhabited

namespace Storage

/-- The node whose storage is resolved. -/
structure Place where
  index : Nat
  pod : String
  host : String
  deriving DecidableEq, Repr

/-- Refuse a claim that is named after another pod, or was provisioned on another host. -/
def checkOwner (place : Place) (name : String) (claim : Claim) : Outcome Unit :=
  if Text.endsWith name s!"-{place.pod}" then
    match claim.metadata.annotation? Names.selectedNode with
    | some selected =>
      if selected = place.host then .ok ()
      else
        .error (.nodeMismatch place.index name (.otherHost selected place.pod place.host))
    | none => .ok ()
  else .error (.nodeMismatch place.index name (.notOwner place.pod))

/-- The storage behind one template. -/
def resolveTemplate (place : Place) (spec : PodSpec) (container : Container)
    (claims : KeyMap String Claim) (template : ClaimTemplate) : Outcome StorageDescriptor := do
  let unmounted := Failure.claimNotFound place.index place.pod template.name
  let claimName ← required unmounted (spec.claimName? template.name)
  let claim ← required (.notFound "PersistentVolumeClaim" claimName) (claims.get? claimName)
  checkOwner place claimName claim
  let size ← required (.validation (.noStorageRequest claimName))
    (claim.spec.bind (·.storage?))
  let mountPath ← required unmounted (container.mountPath? template.name)
  return {
    name := template.name
    claimName, size, mountPath
    storageClass := (claim.spec.bind (·.storageClassName)).or template.storageClass
    volumeName := claim.spec.bind (·.volumeName)
    accessModes := (claim.spec.bind (·.accessModes)).getD [] }

/-- The storage behind the templates of a node, in their order. -/
def resolve (index : Nat) (pod : Pod) (container : Container) (templates : List ClaimTemplate)
    (claims : KeyMap String Claim) : Outcome (List StorageDescriptor) := do
  let name := pod.metadata.nameText
  let spec ← required (.notFound "PodSpec" name) pod.spec
  let host ← required (.schedulingIncomplete name) spec.nodeName
  templates.mapM (resolveTemplate ⟨index, name, host⟩ spec container claims)

/-- Whether a path is a mount path or lies below it. -/
def isWithin (path mount : String) : Bool :=
  let mount := Text.dropSlashes mount
  path = mount || Text.startsWith path s!"{mount}/"

/-- The volume for failover to a disk of its own, mounted at the path that the flag gives. -/
def failover (index : Nat) (pod : String) (mode : WalFailover)
    (descriptors : List StorageDescriptor) : Outcome (Option StorageDescriptor) :=
  match mode.sideDiskPath? with
  | none => .ok none
  | some path => do
    let found ← required (.claimNotFound index pod Names.failoverVolume)
      (descriptors.find? (·.name = Names.failoverVolume))
    if isWithin path found.mountPath then return some { found with mountPath := path }
    else .error (.validation (.failoverOutside index path found.name found.mountPath))

end Storage

end Handover
