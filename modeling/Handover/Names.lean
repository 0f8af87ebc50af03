import Handover.Text.Basic
import Handover.Text.Numeral

/-!
# Names that both schemes know

A cluster has numbered nodes, a node is named after its cluster and its number, and a claim after
the volume and the node that it belongs to. Names are how one scheme finds what the other left.
-/

namespace Handover.Names

/-! ## Well-known names -/

/-- The label that tells which cluster a CrdbNode belongs to. -/
def clusterLabel : String := "crdb.cockroachlabs.com/cluster"

/-- The volume of a node that declares no other. -/
def dataVolume : String := "datadir"

def failoverVolume : String := "failoverdir"

/-- The volume that holds the configuration of logging. -/
def logVolume : String := "log-config"

def legacyContainer : String := "db"

def operatorContainer : String := "cockroachdb"

/-- The annotation of a claim that tells the host on which its volume was made. -/
def selectedNode : String := "volume.kubernetes.io/selected-node"

/-- The key of the logging configuration under a StatefulSet. -/
def legacyLogKey : String := "log-config.yaml"

/-- The key of the logging configuration under the operator. -/
def operatorLogKey : String := "logs.yaml"

def authorityKey : String := "ca.crt"

/-- Labels that the platform or a controller gives to pods. -/
def managedLabels : List String :=
  ["controller-revision-hash", "statefulset.kubernetes.io/pod-name",
    "apps.kubernetes.io/pod-index", "pod-template-hash", clusterLabel]

/-- Variables that each scheme sets by itself. -/
def managedEnv : List String := ["STATEFULSET_NAME", "STATEFULSET_FQDN", "HOST_IP", "POD_NAME"]

/-! ## Derived names -/

def nodeName (cluster : String) (ordinal : Nat) : String := s!"{cluster}-{ordinal}"

/-- The number in the name of a node of a cluster. -/
def ordinalOf? (cluster name : String) : Option Nat := do
  let rest ← Text.strip? cluster name
  Text.readUnsigned Text.maxWord64 (← Text.strip? "-" rest)

def claimName (volume pod : String) : String := s!"{volume}-{pod}"

def publicService (cluster : String) : String := s!"{cluster}-public"

/-- A name within a namespace, as messages give it. -/
def qualified (ns name : String) : String := s!"{ns}/{name}"

end Handover.Names
