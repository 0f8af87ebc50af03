/-!
# What can go wrong

Every failure ends the run it occurs in, and none is tried again. A failure is a cause with the
names and values it concerns; its wording is in `Failure.message` and the functions before it.
-/

namespace Handover

/-- Why a flag of a start command cannot be read. -/
inductive FlagFault where
  | positional
  | portNotLiteral (value : String)
  | invalidPort (value : String)
  | notBoolean (value : String)
  | tierWithoutValue (tier : String)
  | relativeFailoverPath (path : String)
  | unknownFailoverMode (mode : String)
  deriving DecidableEq, Repr

def FlagFault.message : FlagFault → String
  | .positional => "unexpected positional argument"
  | .portNotLiteral value => s!"port '{value}' is not a literal"
  | .invalidPort value => s!"'{value}' is not a valid port"
  | .notBoolean value => s!"'{value}' is not a boolean"
  | .tierWithoutValue tier => s!"tier '{tier}' has no value"
  | .relativeFailoverPath path => s!"failover path '{path}' must be absolute"
  | .unknownFailoverMode mode => s!"unrecognized mode '{mode}'"

/-- Why a claim does not belong to the node that mounts it. -/
inductive Mismatch where
  | notOwner (pod : String)
  | otherHost (selected pod host : String)
  deriving DecidableEq, Repr

def Mismatch.message : Mismatch → String
  | .notOwner pod => s!"is not owned by pod '{pod}'"
  | .otherHost selected pod host =>
    s!"was provisioned on host '{selected}' but pod '{pod}' runs on '{host}'"

/-- A combination that the source does not have or the target cannot express. -/
inductive Violation where
  | tooFewStores (found : Nat)
  | noStorageRequest (claim : String)
  | failoverOutside (node : Nat) (path volume mount : String)
  | negativeReplicas (name : String) (replicas : Int)
  | foreignNodeName (name cluster : String)
  | ordinalGap (cluster : String) (expected : Nat) (found : String)
  | noNodes (cluster : String)
  | logNotText (secret key : String)
  | wrongSource (direction source : String)
  | storeWithoutVolume (node : Nat) (store : String)
  | storeOutside (node : Nat) (path : String)
  | noRegion
  | nothingToDescribe
  | differentFlags (node : Nat) (pod : String)
  | foreignClaim (node : Nat) (claim expected : String)
  | storesDiffer (node : Nat) (seen options : List String)
  | unknownStoreField (node : Nat) (field : String)
  | settingsFile (detail : String)
  deriving DecidableEq, Repr

def Violation.message : Violation → String
  | .tooFewStores found =>
    s!"--wal-failover=among-stores needs more than one store per node, found {found}"
  | .noStorageRequest claim => s!"claim '{claim}' has no storage request"
  | .failoverOutside node path volume mount =>
    s!"node {node}: failover path '{path}' is outside volume '{volume}' mounted at '{mount}'"
  | .negativeReplicas name replicas => s!"StatefulSet '{name}' has {replicas} replicas"
  | .foreignNodeName name cluster =>
    s!"CrdbNode '{name}' does not follow the '{cluster}-<ordinal>' naming"
  | .ordinalGap cluster expected found =>
    s!"CrdbNode ordinals are not contiguous: expected {cluster}-{expected}, found '{found}'"
  | .noNodes cluster => s!"cluster '{cluster}' has no nodes to migrate"
  | .logNotText secret key => s!"secret '{secret}' key '{key}' is not UTF-8"
  | .wrongSource direction source => s!"cannot synthesize {direction} from a {source} source"
  | .storeWithoutVolume node store => s!"node {node}: store '{store}' is not backed by a volume"
  | .storeOutside node path => s!"node {node}: store path '{path}' is not on any data volume"
  | .noRegion => "no region configured and no region locality tier observed"
  | .nothingToDescribe => "no nodes to describe"
  | .differentFlags node pod =>
    s!"node {node} ('{pod}') runs with different flags than node 0; "
      ++ "a StatefulSet cannot express per-node flags"
  | .foreignClaim node claim expected =>
    s!"node {node}: claim '{claim}' cannot be adopted by a StatefulSet, which expects '{expected}'"
  | .storesDiffer node seen options =>
    s!"node {node}: stores carry different fields (" ++ ",".intercalate seen ++ " vs "
      ++ ",".intercalate options ++ "); the chart renders one set"
  | .unknownStoreField node field =>
    s!"node {node}: store field '{field}' has no StatefulSet chart value"
  | .settingsFile detail => s!"config file: {detail}"

/-- An error of the file system. -/
inductive FileFault where
  | notFound
  | busy
  | exists
  | notDirectory
  | isDirectory
  | nameTooLong
  | other (detail : String)
  deriving DecidableEq, Repr, Inhabited

/-- The error in the words of the operating system, with its number. -/
def FileFault.message : FileFault → String
  | .notFound => "No such file or directory (os error 2)"
  | .busy => "Device or resource busy (os error 16)"
  | .exists => "File exists (os error 17)"
  | .notDirectory => "Not a directory (os error 20)"
  | .isDirectory => "Is a directory (os error 21)"
  | .nameTooLong => "File name too long (os error 36)"
  | .other detail => detail

/-- A failure of a run. -/
inductive Failure where
  /-- An object that has to exist does not. -/
  | notFound (kind name : String)
  /-- A pod has no host yet. -/
  | schedulingIncomplete (pod : String)
  /-- A claim belongs to another node than the one that mounts it. -/
  | nodeMismatch (node : Nat) (claim : String) (reason : Mismatch)
  /-- A pod does not mount a claim for a volume that it has to have. -/
  | claimNotFound (node : Nat) (pod volume : String)
  /-- A flag is malformed. -/
  | parse (flag : String) (reason : FlagFault)
  | validation (v : Violation)
  /-- The platform cannot be reached. -/
  | platform (detail : String)
  /-- A file or directory cannot be read or written. -/
  | file (path : String) (cause : FileFault)
  /-- A text is not the YAML, or a document not the object, that it has to be. -/
  | document (detail : String)
  /-- A text is not the JSON that it has to be. -/
  | encoding (detail : String)
  deriving DecidableEq, Repr

def Failure.message : Failure → String
  | .notFound kind name => s!"{kind} '{name}' not found"
  | .schedulingIncomplete pod => s!"pod '{pod}' is not scheduled to a node yet"
  | .nodeMismatch node claim reason => s!"node {node}: claim '{claim}' {reason.message}"
  | .claimNotFound node pod volume =>
    s!"node {node}: pod '{pod}' mounts no claim for volume '{volume}'"
  | .parse flag reason => s!"cannot parse {flag}: {reason.message}"
  | .validation v => s!"validation failed: {v.message}"
  | .platform detail => s!"platform request failed: {detail}"
  | .file path cause => s!"I/O error on '{path}': {cause.message}"
  | .document detail => s!"serialization error: {detail}"
  | .encoding detail => s!"encoding error: {detail}"

/-- A run that ends in a value or a failure. -/
abbrev Outcome := Except Failure

def missing {α : Type} (kind name : String) : Outcome α := .error (.notFound kind name)

/-- The value that is there, or the failure that there is none. -/
def required {α : Type} (failure : Failure) : Option α → Outcome α
  | some a => .ok a
  | none => .error failure

end Handover
