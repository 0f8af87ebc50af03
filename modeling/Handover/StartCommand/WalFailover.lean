import Handover.Failure
import Handover.Text.Basic

/-!
# WAL failover

Where a node writes its log when a store stalls. Every use of the flag goes through
`WalFailover.classify`, so a value that is not known is refused everywhere and never read as
`disabled`.
-/

namespace Handover

/-- A mode of WAL failover. -/
inductive WalFailover where
  | disabled
  | amongStores
  /-- To a disk of its own, mounted at `path`. -/
  | sideDisk (path : String)
  deriving DecidableEq, Repr, Inhabited

namespace WalFailover

def flagValue : WalFailover → String
  | .disabled => "disabled"
  | .amongStores => "among-stores"
  | .sideDisk path => s!"path={path}"

def sideDiskPath? : WalFailover → Option String
  | .sideDisk path => some path
  | _ => none

def flag : String := "--wal-failover"

/-- An absolute path without slashes at its end; the root keeps its slash. -/
def trimPath (path : String) : String :=
  let trimmed := Text.dropSlashes path
  if trimmed.isEmpty then "/" else trimmed

/-- The mode that a value of the flag stands for. Without the flag there is no failover. -/
def classify (value : Option String) (storeCount : Nat) : Outcome WalFailover :=
  match value with
  | none => .ok .disabled
  | some value =>
    if value = "disabled" then .ok .disabled
    else if value = "among-stores" then
      if 1 < storeCount then .ok .amongStores
      else .error (.validation (.tooFewStores storeCount))
    else
      match Text.strip? "path=" value with
      | some path =>
        if Text.startsWith path "/" then .ok (.sideDisk (trimPath path))
        else .error (.parse flag (.relativeFailoverPath path))
      | none => .error (.parse flag (.unknownFailoverMode value))

end WalFailover

end Handover
