import Handover.Kubernetes.Schema

/-!
# Metadata of objects
-/

namespace Handover.Kubernetes

open Yaml Yaml.Fields

/-- Texts by name: labels, annotations, and the like. -/
abbrev Labels := KeyMap String String

def Labels.of (entries : List (String × String)) : Labels := KeyMap.ofList entries

def Labels.codec : Codec Labels := .map .text

/-- What every object carries about itself. -/
structure ObjectMeta where
  annotations : Option Labels := none
  creationTimestamp : Option String := none
  deletionGracePeriodSeconds : Option Int64 := none
  deletionTimestamp : Option String := none
  finalizers : Option (List String) := none
  generateName : Option String := none
  generation : Option Int64 := none
  labels : Option Labels := none
  managedFields : Option (List Value) := none
  name : Option String := none
  ns : Option String := none
  ownerReferences : Option (List Value) := none
  resourceVersion : Option String := none
  selfLink : Option String := none
  uid : Option String := none
  deriving DecidableEq, Repr, Inhabited

namespace ObjectMeta

def codec : Codec ObjectMeta := .record
  (fun fs => do
    return {
      annotations := ← fs.optional "annotations" Labels.codec
      creationTimestamp := ← fs.optional "creationTimestamp" .time
      deletionGracePeriodSeconds := ← fs.optional "deletionGracePeriodSeconds" .int64
      deletionTimestamp := ← fs.optional "deletionTimestamp" .time
      finalizers := ← fs.optional "finalizers" (.list .text)
      generateName := ← fs.optional "generateName" .text
      generation := ← fs.optional "generation" .int64
      labels := ← fs.optional "labels" Labels.codec
      managedFields := ← fs.optional "managedFields" (.list Schema.managedFieldsEntry.codec)
      name := ← fs.optional "name" .text
      ns := ← fs.optional "namespace" .text
      ownerReferences := ← fs.optional "ownerReferences" (.list Schema.ownerReference.codec)
      resourceVersion := ← fs.optional "resourceVersion" .text
      selfLink := ← fs.optional "selfLink" .text
      uid := ← fs.optional "uid" .text })
  (fun m =>
    opt "annotations" Labels.codec m.annotations
    ++ opt "creationTimestamp" .time m.creationTimestamp
    ++ opt "deletionGracePeriodSeconds" .int64 m.deletionGracePeriodSeconds
    ++ opt "deletionTimestamp" .time m.deletionTimestamp
    ++ opt "finalizers" (.list .text) m.finalizers
    ++ opt "generateName" .text m.generateName
    ++ opt "generation" .int64 m.generation
    ++ opt "labels" Labels.codec m.labels
    ++ opt "managedFields" (.list Schema.managedFieldsEntry.codec) m.managedFields
    ++ opt "name" .text m.name
    ++ opt "namespace" .text m.ns
    ++ opt "ownerReferences" (.list Schema.ownerReference.codec) m.ownerReferences
    ++ opt "resourceVersion" .text m.resourceVersion
    ++ opt "selfLink" .text m.selfLink
    ++ opt "uid" .text m.uid)

/-- The name, empty when there is none. -/
def nameText (m : ObjectMeta) : String := m.name.getD ""

def label? (m : ObjectMeta) (key : String) : Option String := m.labels.bind (·.get? key)

def annotation? (m : ObjectMeta) (key : String) : Option String :=
  m.annotations.bind (·.get? key)

end ObjectMeta

/-- A kind of objects, each of which carries metadata. -/
class HasMetadata (α : Type) where
  metadata : α → ObjectMeta

def metadataOf (fs : Fields) : Except Unreadable ObjectMeta :=
  fs.withDefault "metadata" ObjectMeta.codec {}

end Handover.Kubernetes
