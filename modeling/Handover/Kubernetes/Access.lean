import Handover.Kubernetes.Metadata

/-!
# Identities and permissions
-/

namespace Handover.Kubernetes

open Yaml Yaml.Fields

/-- The identity that pods run under. -/
structure ServiceAccount where
  metadata : ObjectMeta := {}
  deriving DecidableEq, Repr, Inhabited

/-- What may be done to some resources. -/
structure PolicyRule where
  apiGroup : String
  resources : List String
  verbs : List String
  deriving DecidableEq, Repr, Inhabited

/-- Permissions within a namespace, or in the whole cluster. -/
structure Role where
  metadata : ObjectMeta := {}
  rules : List PolicyRule := []
  deriving DecidableEq, Repr, Inhabited

/-- A role by kind and name. -/
structure RoleRef where
  kind : String
  name : String
  deriving DecidableEq, Repr, Inhabited

/-- An identity that is given permissions. -/
structure Subject where
  name : String
  ns : String
  deriving DecidableEq, Repr, Inhabited

/-- A role given to identities, within a namespace or in the whole cluster. -/
structure RoleBinding where
  metadata : ObjectMeta := {}
  roleRef : RoleRef
  subjects : List Subject := []
  deriving DecidableEq, Repr, Inhabited

/-! ## Documents -/

def accessGroup : String := "rbac.authorization.k8s.io"

def typed (apiVersion kind : String) (metadata : ObjectMeta) (fields : Fields) : Value :=
  Value.record
    (("apiVersion", .text apiVersion) :: ("kind", .text kind)
      :: ("metadata", ObjectMeta.codec.write metadata) :: fields)

def ServiceAccount.document (a : ServiceAccount) : Value :=
  typed "v1" "ServiceAccount" a.metadata []

def PolicyRule.document (r : PolicyRule) : Value := .record [
  ("apiGroups", .seq [.text r.apiGroup]),
  ("resources", .seq (r.resources.map .text)),
  ("verbs", .seq (r.verbs.map .text))]

/-- The document of a role under the kind that tells its reach. -/
def Role.document (kind : String) (r : Role) : Value :=
  typed s!"{accessGroup}/v1" kind r.metadata [("rules", .seq (r.rules.map PolicyRule.document))]

def RoleRef.document (r : RoleRef) : Value := .record [
  ("apiGroup", .text accessGroup),
  ("kind", .text r.kind),
  ("name", .text r.name)]

/-- The document of an identity that is given permissions. -/
def Subject.document (s : Subject) : Value := .record [
  ("kind", .text "ServiceAccount"),
  ("name", .text s.name),
  ("namespace", .text s.ns)]

/-- The document of a binding under the kind that tells its reach. -/
def RoleBinding.document (kind : String) (b : RoleBinding) : Value :=
  typed s!"{accessGroup}/v1" kind b.metadata [
    ("roleRef", b.roleRef.document),
    ("subjects", .seq (b.subjects.map Subject.document))]

end Handover.Kubernetes
