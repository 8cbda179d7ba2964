import RawProfile.Command.Demo
import RawProfile.Transport.MemoryStore

/-!
# The command line

Runs the demo command on the file system of the machine. The specimen is dumped into memory first;
then its file is written.
-/

namespace RawProfile.Command

/-- A directory, and nothing else, has an entry for itself. -/
def isDirectoryOnDisk (path : String) : IO Bool := do
  try
    let _ ← IO.FS.Handle.mk (path ++ "/.") .read
    return true
  catch _ => return false

def reasonOf : IO.Error → String
  | .noFileOrDirectory .. => FileError.noEntry.message
  | .inappropriateType _ 20 _ => FileError.notDirectory.message
  | .inappropriateType _ 21 _ => FileError.isDirectory.message
  | .resourceExhausted _ 28 _ => FileError.noSpace.message
  | e => toString e

def saveOnDisk (path : String) (bytes : ByteArray) : IO (Except Failure Unit) := do
  try
    IO.FS.writeBinFile path bytes
    return .ok ()
  catch e => return .error (.dumpFailed (.cannotOpen ⟨path, reasonOf e⟩))

def dumpOnDisk (readFilter : String → Except LogFilter.Fault Unit) (options : Options) :
    IO (Except Failure Unit) := do
  let isDirectory ← isDirectoryOnDisk options.outDir
  match options.check readFilter fun _ => isDirectory with
  | .error failure => return .error failure
  | .ok () =>
    let outcome := dumpSpecimen options.size ({} : MemoryStore)
    match outcome.value, outcome.transport.file? defaultFileName with
    | .error failure, _ => return .error failure
    | .ok _, none => return .error .neverScheduled
    | .ok _, some bytes => saveOnDisk (PathText.join options.outDir defaultFileName) bytes

def usageText : String :=
  "Register a synthetic instrumented image and dump it as default.profraw\n\n" ++
    "Options:\n" ++
    "  --out-dir <DIR>          [env: PROFRT_OUT_DIR] [default: .]\n" ++
    "  --functions <FUNCTIONS>  [default: 4]\n" ++
    "  --counters <COUNTERS>    [default: 3]\n" ++
    "  --names-len <BYTES>      [default: 32]\n" ++
    "  --log-level <LOG_LEVEL>  [env: PROFRT_LOG] [default: info]"

def printCauses : List String → IO Unit
  | [] => pure ()
  | first :: causes => do
    IO.eprintln ("Error: " ++ first)
    unless causes.isEmpty do
      IO.eprintln "\nCaused by:"
      for cause in causes do
        IO.eprintln ("    " ++ cause)

def runOnDisk (parse : List String → (String → Option String) → Except Refusal Options)
    (readFilter : String → Except LogFilter.Fault Unit) (args : List String)
    (environment : String → Option String) : IO UInt32 := do
  match parse args environment with
  | .error .help =>
    IO.println usageText
    return 0
  | .error .usage =>
    IO.eprintln usageText
    return 2
  | .ok options =>
    match ← dumpOnDisk readFilter options with
    | .ok () => return 0
    | .error failure =>
      printCauses failure.causes
      return .ofNat failure.exitCode

end RawProfile.Command

open RawProfile RawProfile.Command in
def main (args : List String) : IO UInt32 := do
  let outDir ← IO.getEnv outDirVariable
  let logFilter ← IO.getEnv logFilterVariable
  let environment (name : String) : Option String :=
    if name = outDirVariable then outDir
    else if name = logFilterVariable then logFilter
    else none
  runOnDisk Options.parse LogFilter.read args environment
