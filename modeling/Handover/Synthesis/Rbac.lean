import Handover.Kubernetes.Access
import Handover.Manifest.File

/-!
# Permissions of a StatefulSet

The identity that the pods of a StatefulSet run under and what it may do. Objects in a namespace
are named after the cluster; those of the whole platform carry the namespace as well.
-/

namespace Handover

open Kubernetes

/-- The identity of a cluster's pods, and its permissions. -/
structure RbacBundle where
  serviceAccount : ServiceAccount
  role : Role
  roleBinding : RoleBinding
  clusterRole : Role
  clusterRoleBinding : RoleBinding
  deriving DecidableEq, Repr, Inhabited

namespace RbacBundle

def metadata (cluster name : String) (ns : Option String) : ObjectMeta where
  name := some name
  ns := ns
  labels := some (.of [
    ("app.kubernetes.io/name", "cockroachdb"), ("app.kubernetes.io/instance", cluster)])

def scopedName (ns cluster : String) : String := s!"{ns}-{cluster}"

/-- The bundle of a cluster whose pods run under `account`. -/
def of (cluster ns account : String) : RbacBundle :=
  let wide := scopedName ns cluster
  let subjects := [{ name := account, ns }]
  { serviceAccount := ⟨metadata cluster account (some ns)⟩
    role := {
      metadata := metadata cluster cluster (some ns)
      rules := [⟨"", ["secrets"], ["create", "get"]⟩] }
    roleBinding := {
      metadata := metadata cluster cluster (some ns)
      roleRef := ⟨"Role", cluster⟩
      subjects }
    clusterRole := {
      metadata := metadata cluster wide none
      rules := [⟨"certificates.k8s.io", ["certificatesigningrequests"],
        ["create", "get", "watch"]⟩] }
    clusterRoleBinding := {
      metadata := metadata cluster wide none
      roleRef := ⟨"ClusterRole", wide⟩
      subjects } }

/-- The kinds and names of the objects in the order in which they are applied. -/
def objectNames (b : RbacBundle) : List String := [
  s!"ServiceAccount/{b.serviceAccount.metadata.nameText}",
  s!"Role/{b.role.metadata.nameText}",
  s!"RoleBinding/{b.roleBinding.metadata.nameText}",
  s!"ClusterRole/{b.clusterRole.metadata.nameText}",
  s!"ClusterRoleBinding/{b.clusterRoleBinding.metadata.nameText}"]

def documents (b : RbacBundle) : List Yaml.Value := [
  b.serviceAccount.document,
  b.role.document "Role",
  b.roleBinding.document "RoleBinding",
  b.clusterRole.document "ClusterRole",
  b.clusterRoleBinding.document "ClusterRoleBinding"]

def file (b : RbacBundle) : ManifestFile := ⟨"rbac.yaml", b.documents⟩

end RbacBundle

end Handover
