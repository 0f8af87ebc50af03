import Handover.Failure
import Handover.Settings.Toml

/-!
# Settings of a run

What to hand over and where to write, with the facts about the target that the running cluster
does not show. A settings file gives defaults for some of them.
-/

namespace Handover

/-- The scheme under which a cluster runs. -/
inductive Source where
  | statefulSet
  | crdbNode
  deriving DecidableEq, Repr, Inhabited

namespace Source

def text : Source → String
  | .statefulSet => "statefulset"
  | .crdbNode => "crdbnode"

def read? (s : String) : Option Source :=
  if s = "statefulset" then some .statefulSet
  else if s = "crdbnode" then some .crdbNode
  else none

def title : Source → String
  | .statefulSet => "StatefulSet"
  | .crdbNode => "CrdbNode"

end Source

/-- Which way a cluster is handed over. -/
inductive Direction where
  | toCrdbNodes
  | toStatefulSet
  deriving DecidableEq, Repr, Inhabited

namespace Direction

def ofSource : Source → Direction
  | .statefulSet => .toCrdbNodes
  | .crdbNode => .toStatefulSet

def text : Direction → String
  | .toCrdbNodes => "to-crdb-nodes"
  | .toStatefulSet => "to-stateful-set"

def title : Direction → String
  | .toCrdbNodes => "ToCrdbNodes"
  | .toStatefulSet => "ToStatefulSet"

end Direction

/-- Facts about the target that the source does not show. -/
structure Target where
  cloudProvider : Option String := none
  region : Option String := none
  image : Option String := none
  clusterDomain : Option String := none
  deriving DecidableEq, Repr, Inhabited

/-- The facts that are given, and where none is given those of `fallback`. -/
def Target.or (t fallback : Target) : Target where
  cloudProvider := t.cloudProvider.or fallback.cloudProvider
  region := t.region.or fallback.region
  image := t.image.or fallback.image
  clusterDomain := t.clusterDomain.or fallback.clusterDomain

/-- The defaults of a settings file. -/
structure Defaults where
  namespaceName : Option String := none
  outputDir : Option String := none
  target : Target := {}
  deriving DecidableEq, Repr, Inhabited

namespace Defaults

def set (d : Defaults) (name value : String) : Outcome Defaults :=
  match name with
  | "namespace" => .ok { d with namespaceName := some value }
  | "output-dir" => .ok { d with outputDir := some value }
  | "cloud-provider" => .ok { d with target.cloudProvider := some value }
  | "region" => .ok { d with target.region := some value }
  | "image" => .ok { d with target.image := some value }
  | "cluster-domain" => .ok { d with target.clusterDomain := some value }
  | _ => .error (.validation (.settingsFile s!"unknown field '{name}'"))

/-- The defaults that the text of a settings file gives. -/
def read (s : String) : Outcome Defaults :=
  match Toml.read s with
  | .ok entries => entries.foldlM (fun d e => d.set e.1 e.2) {}
  | .error fault => .error (.validation (.settingsFile fault.message))

end Defaults

/-- One run. -/
structure Request where
  source : Source
  /-- The StatefulSet's name, which is also the cluster label of the CrdbNodes. -/
  cluster : String
  namespaceName : String := "default"
  outputDir : String
  target : Target := {}
  /-- Whether permissions are also applied on the way to a StatefulSet. -/
  applyRbac : Bool := false
  deriving DecidableEq, Repr, Inhabited

end Handover
