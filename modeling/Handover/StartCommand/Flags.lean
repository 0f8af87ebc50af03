import Handover.Failure
import Handover.StartCommand.ExtraFlags
import Handover.StartCommand.Words
import Handover.Text.Numeral

/-!
# Flags of a start command

The words behind the subcommand are read as occurrences of flags. Each occurrence is then given
its meaning, in order: a later one wins over an earlier one, stores add up, and a flag without a
meaning here is passed on. A value that cannot be read is an error also when a later occurrence
would win.
-/

namespace Handover

/-- What a node is told to do on its command line. -/
structure StartFlags where
  sqlPort : UInt16
  grpcPort : UInt16
  httpPort : UInt16
  join : List String
  insecure : Bool
  locality : List (String × String)
  walFailover : Option String
  stores : List String
  logConfigFile : Option String
  extra : ExtraFlags
  deriving DecidableEq, Repr, Inhabited

namespace StartFlags

/-- The number of stores; without any there is the default one. -/
def storeCount (flags : StartFlags) : Nat := max flags.stores.length 1

def localityFlag? (flags : StartFlags) : Option String :=
  if flags.locality.isEmpty then none
  else some (Text.join "," (flags.locality.map fun (tier, value) => s!"{tier}={value}"))

end StartFlags

namespace StartCommand

/-! ## The flags that are known -/

/-- The ports of a node that is not told otherwise. -/
def defaultSqlPort : UInt16 := 26257
def defaultGrpcPort : UInt16 := 26258
def defaultHttpPort : UInt16 := 8080

/-- Flags that the other scheme sets by itself. -/
def droppedFlags : List String :=
  ["--advertise-host", "--advertise-addr", "--certs-dir", "--logtostderr", "--log-config-file",
    "--log", "--log-dir"]

/-- Flags that never take the next word as their value. -/
def bareFlags : List String := ["--insecure", "--logtostderr", "--background"]

def subcommands : List String := ["start", "start-single-node"]

/-! ## Occurrences -/

/-- What is read from the words behind the subcommand. -/
inductive Occurrence where
  | flag (name value : String)
  /-- A word that belongs to no flag. -/
  | stray (word : String)
  deriving DecidableEq, Repr

def isFlag (word : String) : Bool := Text.startsWith word "-"

/-- The occurrences in some words. A flag without an equals sign takes the next word as its
value, unless it never takes one or the next word is a flag. -/
def occurrences : List String → List Occurrence
  | [] => []
  | word :: words =>
    if !isFlag word then .stray word :: occurrences words
    else
      match Text.cutFirst? '=' word with
      | some (name, value) => .flag name value :: occurrences words
      | none =>
        if bareFlags.contains word then .flag word "" :: occurrences words
        else
          match words with
          | [] => [.flag word ""]
          | value :: rest =>
            if isFlag value then .flag word "" :: occurrences (value :: rest)
            else .flag word value :: occurrences rest

/-- The words behind the first subcommand, or all words when there is none. -/
def behindSubcommand (words : List String) : List String :=
  match words.dropWhile fun word => !subcommands.contains word with
  | [] => words
  | _ :: rest => rest

/-! ## Values -/

/-- A port, which must be a literal number from 1 to 65535. -/
def readPort (flag value : String) : Outcome UInt16 :=
  if hasSubstitution value then .error (.parse flag (.portNotLiteral value))
  else
    match Text.readUnsigned Text.maxWord16 value with
    | some n =>
      if 0 < n then .ok (UInt16.ofNat n) else .error (.parse flag (.invalidPort value))
    | none => .error (.parse flag (.invalidPort value))

/-- The port of an address, when the address carries one. -/
def readAddressPort (flag value : String) : Outcome (Option UInt16) :=
  match Text.cutLast? ':' value with
  | some (_, port) =>
    if Text.endsWith port "]" then .ok none else some <$> readPort flag port
  | none => .ok none

/-- A truth value; a flag without a value is true. -/
def readBool (flag value : String) : Outcome Bool :=
  if value = "" ∨ value = "true" then .ok true
  else if value = "false" then .ok false
  else .error (.parse flag (.notBoolean value))

def readTier (tier : String) : Outcome (String × String) :=
  required (.parse "--locality" (.tierWithoutValue tier)) (Text.cutFirst? '=' tier)

def readLocality (value : String) : Outcome (List (String × String)) :=
  ((Text.split ',' value).filter fun tier => !tier.isEmpty).mapM readTier

def readJoin (value : String) : List String :=
  ((Text.split ',' value).map Text.trim).filter fun node => !node.isEmpty

/-! ## Meaning -/

/-- What the occurrences so far have settled. -/
structure Settled where
  port : Option UInt16 := none
  sqlAddressPort : Option UInt16 := none
  listenAddressPort : Option UInt16 := none
  httpPort : Option UInt16 := none
  httpAddressPort : Option UInt16 := none
  join : List String := []
  insecure : Bool := false
  locality : List (String × String) := []
  walFailover : Option String := none
  stores : List String := []
  logConfigFile : Option String := none
  extra : ExtraFlags := {}
  deriving DecidableEq, Repr, Inhabited

namespace Settled

def addFlag (s : Settled) (name value : String) : Outcome Settled :=
  match name with
  | "--port" => do return { s with port := some (← readPort name value) }
  | "--sql-addr" => do return { s with sqlAddressPort := ← readAddressPort name value }
  | "--listen-addr" => do return { s with listenAddressPort := ← readAddressPort name value }
  | "--http-port" => do return { s with httpPort := some (← readPort name value) }
  | "--http-addr" => do return { s with httpAddressPort := ← readAddressPort name value }
  | "--join" => .ok { s with join := readJoin value }
  | "--insecure" => do return { s with insecure := ← readBool name value }
  | "--locality" => do return { s with locality := ← readLocality value }
  | "--wal-failover" => .ok { s with walFailover := some value }
  | "--store" | "-s" => .ok { s with stores := s.stores ++ [value] }
  | "--log-config-file" => .ok { s with logConfigFile := some value }
  | _ =>
    if droppedFlags.contains name then .ok s
    else .ok { s with extra := s.extra.insert name value }

def add (s : Settled) : Occurrence → Outcome Settled
  | .flag name value => s.addFlag name value
  | .stray word => .error (.parse word .positional)

/-- The flags as they stand in the end: an address wins over a port alone, and what is not
given has its default. -/
def flags (s : Settled) : StartFlags where
  sqlPort := (s.sqlAddressPort.or s.port).getD defaultSqlPort
  grpcPort := s.listenAddressPort.getD defaultGrpcPort
  httpPort := (s.httpAddressPort.or s.httpPort).getD defaultHttpPort
  join := s.join
  insecure := s.insecure
  locality := s.locality
  walFailover := s.walFailover
  stores := s.stores
  logConfigFile := s.logConfigFile
  extra := s.extra

end Settled

/-- The flags of a start command that is given in parts. -/
def parse (parts : List String) : Outcome StartFlags := do
  let settled ← (occurrences (behindSubcommand (tokenize parts))).foldlM Settled.add {}
  return settled.flags

end StartCommand

end Handover
