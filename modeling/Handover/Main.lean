import Handover.CommandLine.Run
import Handover.Service

/-!
# The program

The command line on a real machine: the files, the environment and the streams of a process.
-/

namespace Handover

/-! ## Files -/

def FileFault.ofNumber? (number : UInt32) : Option FileFault :=
  match number with
  | 2 => some .notFound
  | 16 => some .busy
  | 17 => some .exists
  | 20 => some .notDirectory
  | 21 => some .isDirectory
  | 36 => some .nameTooLong
  | _ => none

/-- The error of an operation on files. A missing file is told by its kind, since the number of that
error comes negated from some operations and plain from others. -/
def FileFault.ofError (e : IO.Error) : FileFault :=
  let number := match e with
    | .noFileOrDirectory .. => some 2
    | .alreadyExists _ number _ => some number
    | .inappropriateType _ number _ => some number
    | .invalidArgument _ number _ => some number
    | .otherError number _ => some number
    | _ => none
  (number.bind FileFault.ofNumber?).getD (.other (toString e))

def attempt {α : Type} (operation : IO α) : IO (Except FileFault α) := do
  try
    return .ok (← operation)
  catch e =>
    return .error (.ofError e)

instance : FileSystem IO where
  readText path := attempt (IO.FS.readFile path)
  isDirectory path := do
    try
      (← IO.FS.realPath path).isDir
    catch _ =>
      return false
  makeDirectory path := attempt (IO.FS.createDir path)
  writeText path text := attempt (IO.FS.writeFile path text)
  rename source target := attempt (IO.FS.rename source target)
  remove path := do
    discard (attempt (IO.FS.removeFile path))

/-! ## Program -/

/-- The environment variables that stand in for options. -/
def readEnvironment : IO (List (String × String)) := do
  let found ← (CommandLine.Setting.all.filterMap (·.environment?)).mapM fun name => do
    return (← IO.getEnv name).map (name, ·)
  return found.filterMap id

/-- Answer every line of a stream until it ends. -/
partial def serve (input output : IO.FS.Stream) : IO Unit := do
  let line ← input.getLine
  if line.isEmpty then return ()
  match ← Service.respond line with
  | some answer =>
    output.putStrLn answer
    output.flush
  | none => pure ()
  serve input output

def finishRun (exit : CommandLine.Exit) : IO UInt32 := do
  IO.print exit.output
  IO.eprint exit.errors
  return exit.code.toUInt32

def runProgram (words : List String) : IO UInt32 := do
  match CommandLine.readInvocation words (← readEnvironment) with
  | .error refusal => finishRun (.refused refusal)
  | .ok .serve =>
    serve (← IO.getStdin) (← IO.getStdout)
    return 0
  | .ok (.buildManifest order) => finishRun (← order.run)

end Handover

def main (words : List String) : IO UInt32 := Handover.runProgram words
