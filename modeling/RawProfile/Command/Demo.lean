import RawProfile.Command.Options
import RawProfile.Command.Specimen
import RawProfile.LogFilter.Filter
import RawProfile.Text.Quoted
import RawProfile.Transport.Directory

/-!
# The demo command

The command builds a specimen of the size that is asked for and dumps it into a directory. What can
go wrong is checked in a fixed order, the log filter first, before anything is written.
-/

namespace RawProfile.Command

inductive Failure where
  | invalidLogFilter (filter : String)
  /-- A directive of the log filter would have been cut within a character. -/
  | tornLogFilter
  | tooManyFunctions
  | tooManyCounters
  | namesTooLong
  | noDirectory (path : String)
  | neverScheduled
  | dumpFailed (error : DumpError)
  | fault (fault : WordFault)
  deriving DecidableEq, Repr

def maxFunctions : Nat := 4096

def maxCounters : Nat := 1024

def maxNamesLength : Nat := 1048576

/-- The message of a failure, and then what caused it. -/
def Failure.causes : Failure → List String
  | .invalidLogFilter filter => ["invalid --log-level " ++ Text.quoted filter]
  | .tornLogFilter => []
  | .tooManyFunctions => [s!"--functions must be at most {maxFunctions}"]
  | .tooManyCounters => [s!"--counters must be at most {maxCounters}"]
  | .namesTooLong => [s!"--names-len must be at most {maxNamesLength}"]
  | .noDirectory path => [s!"output directory {path} does not exist"]
  | .neverScheduled => ["profile dump was never scheduled"]
  | .dumpFailed error => ["failed to write raw profile", error.message]
  | .fault f => [f.message]

/-- A torn log filter ends the command on the spot; any other failure is reported. -/
def Failure.exitCode : Failure → Nat
  | .tornLogFilter => 101
  | _ => 1

def Options.size (o : Options) : Specimen.Size := ⟨o.functions, o.counters, o.namesLength⟩

/-- The first thing that is wrong with the options. -/
def Options.check (o : Options) (readFilter : String → Except LogFilter.Fault Unit)
    (isDirectory : String → Bool) : Except Failure Unit :=
  match readFilter o.logFilter with
  | .error .malformed => .error (.invalidLogFilter o.logFilter)
  | .error .torn => .error .tornLogFilter
  | .ok () =>
    if maxFunctions < o.functions.toNat then .error .tooManyFunctions
    else if maxCounters < o.counters.toNat then .error .tooManyCounters
    else if maxNamesLength < o.namesLength.toNat then .error .namesTooLong
    else if !isDirectory o.outDir then .error (.noDirectory o.outDir)
    else .ok ()

variable {σ : Type} [Transport σ]

/-- Builds a specimen and shuts it down. -/
def dumpSpecimen (size : Specimen.Size) : Run σ (Except Failure Summary) := do
  match Specimen.memory size with
  | .error f => return .error (.fault f)
  | .ok memory =>
    let session ← Run.ofLogged (Specimen.session size)
    match ← session.shutdown (.sparse memory) with
    | (none, _) => return .error .neverScheduled
    | (some (.error e), _) => return .error (.dumpFailed e)
    | (some (.ok summary), _) => return .ok summary

/-- What the command leaves behind. -/
structure Report where
  exitCode : Nat
  causes : List String := []
  fileSystem : FileSystem

/-- Runs the command with its arguments, in an environment, on a file system. How a command line
and a log filter are read is given. -/
def run (parse : List String → (String → Option String) → Except Refusal Options)
    (readFilter : String → Except LogFilter.Fault Unit) (args : List String)
    (environment : String → Option String) (fs : FileSystem) : Report :=
  match parse args environment with
  | .error .help => { exitCode := 0, fileSystem := fs }
  | .error .usage => { exitCode := 2, fileSystem := fs }
  | .ok options =>
    match options.check readFilter fun path => (fs.directory? path).isSome with
    | .error failure => { exitCode := failure.exitCode, causes := failure.causes, fileSystem := fs }
    | .ok () =>
      let output : DirectoryOutput := { fileSystem := fs, directory := options.outDir }
      let outcome := dumpSpecimen options.size output
      let fileSystem := outcome.transport.fileSystem
      match outcome.value with
      | .ok _ => { exitCode := 0, fileSystem }
      | .error failure => { exitCode := failure.exitCode, causes := failure.causes, fileSystem }

end RawProfile.Command
