import Handover.CommandLine.Options
import Handover.Migration

/-!
# Carrying out a command line

The result of a run is an exit code with what is printed: the report of a run that succeeded, or
the failure with its causes.
-/

namespace Handover

/-- What a failure comes from, when it is the failure of something else. -/
def Failure.cause? : Failure → Option String
  | .file _ cause => some cause.message
  | .platform detail => some detail
  | .document detail => some detail
  | .encoding detail => some detail
  | _ => none

def Failure.chain (f : Failure) : List String := f.message :: f.cause?.toList

namespace CommandLine

/-- What a program leaves behind when it ends. -/
structure Exit where
  code : Nat
  output : String := ""
  errors : String := ""
  deriving DecidableEq, Repr, Inhabited

/-- An error with its causes, numbered when there are several. -/
def errorText : List String → String
  | [] => ""
  | [message] => s!"Error: {message}"
  | [message, cause] => s!"Error: {message}\n\nCaused by:\n    {cause}"
  | message :: causes =>
    s!"Error: {message}\n\nCaused by:"
      ++ String.join (causes.zipIdx.map fun (cause, index) => s!"\n    {index}: {cause}")

def Exit.failed (chain : List String) : Exit :=
  { code := 1, errors := errorText chain ++ "\n" }

def Exit.refused : Refusal → Exit
  | .usage reason => { code := 2, errors := s!"error: {reason}\n" }
  | .help => { code := 0, output := "Usage: crdb-migrate <COMMAND>\n" }

variable {m : Type → Type} [Monad m] [FileSystem m]

def loadDefaults (path : String) : ExceptT Failure m Defaults := do
  let text ← FileSystem.naming path (FileSystem.readText path)
  ExceptT.mk (pure (Defaults.read text))

def noOutputDir : String :=
  "no output directory: pass --output-dir or set output-dir in the config file"

/-- The request of an order. Options win over the settings file. -/
def Order.request (order : Order) : ExceptT (List String) m Request := do
  let defaults ← match order.config with
    | none => pure {}
    | some path => ExceptT.adapt (fun f => s!"loading {path}" :: f.chain) (loadDefaults path)
  let outputDir ← match order.outputDir.or defaults.outputDir with
    | some dir => pure dir
    | none => throw [noOutputDir]
  return {
    source := order.source
    cluster := order.cluster
    namespaceName := (order.namespaceName.or defaults.namespaceName).getD "default"
    outputDir
    target := order.target.or defaults.target
    applyRbac := order.applyRbac }

def Order.run (order : Order) : m Exit := do
  let result ← ExceptT.run do
    let request ← order.request
    ExceptT.adapt Failure.chain (handOverFrom order.snapshot request)
  match result with
  | .ok report => return { code := 0, output := report.toJson.pretty ++ "\n" }
  | .error chain => return .failed chain

end CommandLine

end Handover
