import Handover.Observation.Basic
import Handover.Text.Base64

/-!
# Configuration of logging

The schemes read the configuration of logging from different kinds of objects under different
keys. A bridge copies it to where the target looks. These are the only writes to the source
cluster besides permissions; they add and never remove, and doing one twice changes nothing
more.
-/

namespace Handover

open Kubernetes

/-- What a bridge has done. -/
inductive BridgeOutcome where
  | applied
  | unchanged
  | skipped
  deriving DecidableEq, Repr, Inhabited

def BridgeOutcome.text : BridgeOutcome → String
  | .applied => "applied"
  | .unchanged => "unchanged"
  | .skipped => "skipped"

/-- What a bridge has to do: nothing, or write a ConfigMap. -/
structure Bridge where
  outcome : BridgeOutcome
  write : Option ConfigMap := none
  deriving DecidableEq, Repr, Inhabited

/-- The store behind a bridge. -/
def Bridge.run (b : Bridge) (store : ObjectStore) (ns : String) : ObjectStore :=
  match b.write with
  | some c => store.applyConfigMap ns c
  | none => store

namespace Logging

def configMap (ns name : String) (data : Labels) (labels : Option Labels) : ConfigMap where
  metadata := { name := some name, ns := some ns, labels }
  data := some data

def renameKey (key : String) : String :=
  if key = Names.legacyLogKey then Names.operatorLogKey else key

def payloadText (name : String) (entry : String × List UInt8) : Outcome (String × String) := do
  let text ← required (.validation (.logNotText name entry.1)) (Text.Base64.utf8? entry.2)
  return (entry.1, text)

/-- The texts of a Secret by key; a plain text wins over bytes. -/
def payload (name : String) (secret : Secret) : Outcome Labels := do
  let entries ← ((secret.data.map (·.entries)).getD []).mapM (payloadText name)
  return KeyMap.ofList (entries ++ (secret.stringData.map (·.entries)).getD [])

/-- Data with some texts under their keys in a ConfigMap. -/
def addPayload (data payload : Labels) : Labels :=
  payload.entries.foldl (fun data e => data.insert (renameKey e.1) e.2) data

/-- How the Secret of a name becomes a ConfigMap of the same name. What the ConfigMap holds under
other keys stays. -/
def bridgeSecret (store : ObjectStore) (ns name : String) : Outcome Bridge := do
  let secret ← required (.notFound "Secret" (Names.qualified ns name)) (store.secret? ns name)
  let payload ← payload name secret
  let existing := store.configMap? ns name
  let data := addPayload ((existing.bind (·.data)).getD .empty) payload
  if existing.bind (·.data) = some data then return { outcome := .unchanged }
  else
    let labels := (existing.bind (·.metadata.labels)).or secret.metadata.labels
    return { outcome := .applied, write := some (configMap ns name data labels) }

/-- How the configuration in a ConfigMap comes under the key of a StatefulSet. It also stays
where it was. -/
def relocateKey (store : ObjectStore) (ns name : String) : Outcome Bridge := do
  let found ← required (.notFound "ConfigMap" (Names.qualified ns name))
    (store.configMap? ns name)
  let data := found.data.getD .empty
  let text ← required
    (.notFound "ConfigMap key" s!"{Names.qualified ns name}:{Names.operatorLogKey}")
    (data.get? Names.operatorLogKey)
  if data.get? Names.legacyLogKey = some text then return { outcome := .unchanged }
  else
    let data := data.insert Names.legacyLogKey text
    return {
      outcome := .applied
      write := some (configMap ns name data found.metadata.labels) }

/-- What a direction needs. -/
def bridge (store : ObjectStore) (direction : Direction) (o : ClusterObservation) :
    Outcome Bridge :=
  match direction, o.logging with
  | .toCrdbNodes, some (.secret name) => bridgeSecret store o.ns name
  | .toStatefulSet, some (.configMap name) => relocateKey store o.ns name
  | _, _ => .ok { outcome := .skipped }

end Logging

end Handover
