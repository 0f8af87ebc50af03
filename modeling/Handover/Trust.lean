import Handover.Json.Value
import Handover.Observation.Basic

/-!
# Trust material

The two schemes keep certificates and keys under different names. A rename says which object of
the source becomes which object of the target; what the objects hold is never read.
-/

namespace Handover

open Kubernetes

namespace Trust

/-- What a piece of trust material is for. -/
inductive Purpose where
  | ca
  | node
  | client
  deriving DecidableEq, Repr, Inhabited

/-- The kind of object that holds it. -/
inductive Holder where
  | secret
  | configMap
  deriving DecidableEq, Repr, Inhabited

def Holder.text : Holder → String
  | .secret => "Secret"
  | .configMap => "ConfigMap"

def Purpose.text : Purpose → String
  | .ca => "ca"
  | .node => "node"
  | .client => "client"

/-- An object, or one key of it. -/
structure Ref where
  holder : Holder
  name : String
  key : Option String := none
  deriving DecidableEq, Repr, Inhabited

/-- A piece of trust material under its name in the source and its name in the target. -/
structure Rename where
  purpose : Purpose
  source : Ref
  target : Ref
  deriving DecidableEq, Repr, Inhabited

end Trust

/-- All renames of a cluster; a cluster that runs insecure has none. -/
structure TrustMap where
  renames : List Trust.Rename := []
  deriving DecidableEq, Repr, Inhabited

namespace TrustMap

open Trust

/-! ## Names -/

def legacyNodeSecret (cluster : String) : String := s!"{cluster}-node-secret"

def legacyClientSecret (cluster : String) : String := s!"{cluster}-client-secret"

/-- The names that the operator gives to trust material. -/
def operatorNames (cluster : String) : ExternalCertificates where
  caConfigMapName := s!"{cluster}-ca-crt"
  nodeSecretName := s!"{cluster}-node-certs"
  rootSqlClientSecretName := s!"{cluster}-client-certs"

/-- The material of a purpose under a StatefulSet. The authority is a key of the nodes' Secret. -/
def legacyRef (cluster : String) : Purpose → Ref
  | .ca => ⟨.secret, legacyNodeSecret cluster, some Names.authorityKey⟩
  | .node => ⟨.secret, legacyNodeSecret cluster, none⟩
  | .client => ⟨.secret, legacyClientSecret cluster, none⟩

/-- The material of a purpose under the operator, by the names it is given. -/
def operatorRef (names : ExternalCertificates) : Purpose → Ref
  | .ca => ⟨.configMap, names.caConfigMapName, some Names.authorityKey⟩
  | .node => ⟨.secret, names.nodeSecretName, none⟩
  | .client => ⟨.secret, names.rootSqlClientSecretName, none⟩

/-- The purposes in the order in which they are renamed. -/
def purposes : List Purpose := [.ca, .node, .client]

/-- The renames of a cluster for a direction. No object is read. -/
def ofObservation (direction : Direction) (o : ClusterObservation) : TrustMap :=
  if !o.secure then {}
  else
    match direction with
    | .toCrdbNodes =>
      ⟨purposes.map fun purpose =>
        ⟨purpose, legacyRef o.cluster purpose, operatorRef (operatorNames o.cluster) purpose⟩⟩
    | .toStatefulSet =>
      let names := o.certificates.getD (operatorNames o.cluster)
      ⟨purposes.map fun purpose =>
        ⟨purpose, operatorRef names purpose, legacyRef o.cluster purpose⟩⟩

/-! ## Use -/

def isEmpty (m : TrustMap) : Bool := m.renames.isEmpty

/-- The name in the target of the material of a purpose, empty when there is none. -/
def targetName (m : TrustMap) (purpose : Purpose) : String :=
  ((m.renames.find? (·.purpose = purpose)).map (·.target.name)).getD ""

/-- Refuse a rename whose object does not exist. -/
def checkExists (store : ObjectStore) (ns : String) (rename : Rename) : Outcome Unit :=
  let ref := rename.source
  let found := match ref.holder with
    | .secret => (store.secret? ns ref.name).isSome
    | .configMap => (store.configMap? ns ref.name).isSome
  if found then .ok () else missing ref.holder.text (Names.qualified ns ref.name)

/-- The renames of a cluster, all of whose objects exist in the source. -/
def checked (store : ObjectStore) (direction : Direction) (o : ClusterObservation) :
    Outcome TrustMap := do
  let m := ofObservation direction o
  m.renames.forM (checkExists store o.ns)
  return m

/-! ## Reports -/

def refJson (ref : Ref) : Json :=
  .object ([("kind", .text ref.holder.text), ("name", .text ref.name)]
    ++ (ref.key.map fun key => ("key", Json.text key)).toList)

def toJson (m : TrustMap) : Json :=
  .object [("renames", .array (m.renames.map fun r => .object [
    ("role", .text r.purpose.text), ("from", refJson r.source), ("to", refJson r.target)]))]

end TrustMap

end Handover
