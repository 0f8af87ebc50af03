import Handover.Settings.Basic

/-!
# Options of the program

A run is set up by options with a value, by environment variables where an option is not given,
and by one option that stands alone. An option is written `--name value` or `--name=value` and
given at most once.
-/

namespace Handover.CommandLine

/-- The options that take a value. -/
inductive Setting where
  | source
  | cluster
  | namespaceName
  | outputDir
  | config
  | cloudProvider
  | region
  | image
  | clusterDomain
  | snapshot
  deriving DecidableEq, Repr

namespace Setting

def all : List Setting :=
  [.source, .cluster, .namespaceName, .outputDir, .config, .cloudProvider, .region, .image,
    .clusterDomain, .snapshot]

def option : Setting → String
  | .source => "--source"
  | .cluster => "--name"
  | .namespaceName => "--namespace"
  | .outputDir => "--output-dir"
  | .config => "--config"
  | .cloudProvider => "--cloud-provider"
  | .region => "--region"
  | .image => "--image"
  | .clusterDomain => "--cluster-domain"
  | .snapshot => "--snapshot"

/-- The environment variable that stands in for the option. -/
def environment? : Setting → Option String
  | .source => some "CRDB_MIGRATE_SOURCE"
  | .cluster => some "CRDB_MIGRATE_NAME"
  | .namespaceName => some "CRDB_MIGRATE_NAMESPACE"
  | .outputDir => some "CRDB_MIGRATE_OUTPUT_DIR"
  | .config => some "CRDB_MIGRATE_CONFIG"
  | .cloudProvider => some "CRDB_MIGRATE_CLOUD_PROVIDER"
  | .region => some "CRDB_MIGRATE_REGION"
  | .image => none
  | .clusterDomain => none
  | .snapshot => none

/-- Whether the option takes a value: a scheme must be known, and a path must not be empty. -/
def accepts (s : Setting) (value : String) : Bool :=
  match s with
  | .source => (Source.read? value).isSome
  | .outputDir | .config | .snapshot => !value.isEmpty
  | _ => true

def ofOption? (word : String) : Option Setting := all.find? (·.option = word)

end Setting

/-- The options that were given. -/
structure Given where
  values : List (Setting × String) := []
  applyRbac : Bool := false
  deriving DecidableEq, Repr, Inhabited

def Given.value? (g : Given) (s : Setting) : Option String :=
  (g.values.find? (·.1 = s)).map (·.2)

/-- Why options are not carried out: they are wrong, or they ask for help. -/
inductive Refusal where
  | usage (reason : String)
  | help
  deriving DecidableEq, Repr

def Given.add (g : Given) (s : Setting) (value : String) : Except Refusal Given :=
  if (g.value? s).isSome then .error (.usage s!"{s.option} cannot be used multiple times")
  else if s.accepts value then .ok { g with values := g.values ++ [(s, value)] }
  else .error (.usage s!"invalid value '{value}' for {s.option}")

/-- Whether a word can be the value of the option before it. -/
def canBeValue (word : String) : Bool := !Text.startsWith word "-" || word = "-"

/-- The options in some words, besides those given so far. -/
def readOptions (g : Given) : List String → Except Refusal Given
  | [] => .ok g
  | word :: words =>
    if word = "--apply-rbac" then
      if g.applyRbac then .error (.usage s!"{word} cannot be used multiple times")
      else readOptions { g with applyRbac := true } words
    else if word = "--" then
      if words.isEmpty then .ok g else .error (.usage "unexpected argument")
    else if word = "-h" ∨ word = "--help" then .error .help
    else
      match Text.cutFirst? '=' word with
      | some (option, value) =>
        match Setting.ofOption? option with
        | some s => do readOptions (← g.add s value) words
        | none => .error (.usage s!"unexpected argument '{word}'")
      | none =>
        match Setting.ofOption? word, words with
        | some s, value :: rest =>
          if canBeValue value then do readOptions (← g.add s value) rest
          else .error (.usage s!"a value is required for {word}")
        | some _, [] => .error (.usage s!"a value is required for {word}")
        | none, _ => .error (.usage s!"unexpected argument '{word}'")

/-- The value of an option: the one that was given, or else that of its environment variable. -/
def settle (g : Given) (env : List (String × String)) (s : Setting) :
    Except Refusal (Option String) :=
  match g.value? s with
  | some value => .ok (some value)
  | none =>
    match s.environment?.bind fun name => (env.find? (·.1 = name)).map (·.2) with
    | some value =>
      if s.accepts value then .ok (some value)
      else .error (.usage s!"invalid value '{value}' for {s.option}")
    | none => .ok none

/-- What the options of a run ask for. -/
structure Order where
  source : Source
  cluster : String
  namespaceName : Option String := none
  outputDir : Option String := none
  config : Option String := none
  target : Target := {}
  snapshot : Option String := none
  applyRbac : Bool := false
  deriving DecidableEq, Repr, Inhabited

def demand (s : Setting) : Option String → Except Refusal String
  | some value => .ok value
  | none => .error (.usage s!"{s.option} is required")

def readOrder (words : List String) (env : List (String × String)) : Except Refusal Order := do
  let g ← readOptions {} words
  let value := settle g env
  let source ← demand .source (← value .source)
  let source ← match Source.read? source with
    | some source => pure source
    | none => .error (.usage s!"invalid value '{source}' for --source")
  return {
    source
    cluster := ← demand .cluster (← value .cluster)
    namespaceName := ← value .namespaceName
    outputDir := ← value .outputDir
    config := ← value .config
    target := {
      cloudProvider := ← value .cloudProvider
      region := ← value .region
      image := ← value .image
      clusterDomain := ← value .clusterDomain }
    snapshot := ← value .snapshot
    applyRbac := g.applyRbac }

/-- What the program is asked to do. -/
inductive Invocation where
  | buildManifest (order : Order)
  | serve
  deriving DecidableEq, Repr

def readInvocation (words : List String) (env : List (String × String)) :
    Except Refusal Invocation :=
  match words with
  | "build-manifest" :: words => .buildManifest <$> readOrder words env
  | ["serve"] => .ok .serve
  | ["serve", "--"] => .ok .serve
  | "serve" :: word :: _ =>
    if word = "-h" ∨ word = "--help" then .error .help
    else .error (.usage s!"unexpected argument '{word}'")
  | "help" :: words =>
    if words = [] ∨ ["build-manifest", "serve", "help"].any (words = [·]) then .error .help
    else .error (.usage "unrecognized subcommand")
  | word :: _ =>
    if ["-h", "--help", "-V", "--version"].contains word then .error .help
    else .error (.usage s!"unrecognized subcommand '{word}'")
  | [] => .error (.usage "a subcommand is required")

end Handover.CommandLine
