import Handover.Inventory
import Handover.Observation.Storage
import Handover.StartCommand.Flags

/-!
# Observations

What a running cluster does, in terms that belong to neither scheme. An observation is derived
from pods and claims as they run, and not from what a controller intends.
-/

namespace Handover

open Kubernetes

/-- Where the configuration of logging is kept. -/
inductive LoggingRef where
  | secret (name : String)
  | configMap (name : String)
  deriving DecidableEq, Repr, Inhabited

/-- The name of the object that holds the configuration of logging. -/
def LoggingRef.name : LoggingRef → String
  | .secret name => name
  | .configMap name => name

/-- Where pods may run and how they run. -/
structure PodPolicy where
  image : Option String := none
  serviceAccountName : Option String := none
  terminationGracePeriodSeconds : Option Int64 := none
  tolerations : List Yaml.Value := []
  nodeSelector : Labels := .empty
  affinity : Option Affinity := none
  topologySpreadConstraints : List Yaml.Value := []
  resources : Option Yaml.Value := none
  env : List EnvVar := []
  labels : Labels := .empty
  annotations : Labels := .empty
  deriving DecidableEq, Repr, Inhabited

/-- What one node runs with. -/
structure NodeObservation where
  index : Nat
  podName : String
  host : String
  flags : StartFlags
  walFailover : WalFailover
  storage : List StorageDescriptor
  failover : Option StorageDescriptor
  deriving DecidableEq, Repr, Inhabited

namespace NodeObservation

/-- The volumes that hold stores: all but the one for failover. -/
def dataStorage (node : NodeObservation) : List StorageDescriptor :=
  node.storage.filter (·.name ≠ Names.failoverVolume)

/-- The volume for failover, whether or not it is in use. -/
def failoverVolume? (node : NodeObservation) : Option StorageDescriptor :=
  node.storage.find? (·.name = Names.failoverVolume)

/-- The volume for failover when it is attached but not in use. -/
def idleFailover? (node : NodeObservation) : Option StorageDescriptor :=
  if node.failover.isSome then none else node.failoverVolume?

end NodeObservation

/-- What a running cluster does. It has at least one node. -/
structure ClusterObservation where
  cluster : String
  ns : String
  source : Source
  secure : Bool
  logging : Option LoggingRef
  /-- The names of trust material that the operator was given. -/
  certificates : Option ExternalCertificates
  policy : PodPolicy
  publicService : Option Service
  first : NodeObservation
  others : List NodeObservation
  deriving DecidableEq, Repr, Inhabited

namespace ClusterObservation

def nodes (o : ClusterObservation) : List NodeObservation := o.first :: o.others

/-- The flags of the cluster, for which its first node stands. -/
def flags (o : ClusterObservation) : StartFlags := o.first.flags

end ClusterObservation

end Handover
