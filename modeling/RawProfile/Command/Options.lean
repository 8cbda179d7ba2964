import RawProfile.Word

/-!
# Command-line options

The demo command takes five options, each at most once, as `--name value` or `--name=value`. A
separate value does not start with a dash, unless it is a dash alone. Two options can also come from
the environment, where the command line leaves them out.
-/

namespace RawProfile.Command

/-- What the demo command is asked to do. -/
structure Options where
  outDir : String := "."
  functions : UInt32 := 4
  counters : UInt32 := 3
  namesLength : UInt64 := 32
  logFilter : String := "info"
  deriving DecidableEq, Repr

/-- Why there are no options. -/
inductive Refusal where
  | help
  | usage
  deriving DecidableEq, Repr

/-- The options that were given; the others are to be filled in. -/
structure Given where
  outDir : Option String := none
  functions : Option UInt32 := none
  counters : Option UInt32 := none
  namesLength : Option UInt64 := none
  logFilter : Option String := none
  deriving DecidableEq, Repr

inductive OptionName where
  | outDir
  | functions
  | counters
  | namesLength
  | logFilter
  deriving DecidableEq, Repr

def OptionName.ofText? : String → Option OptionName
  | "out-dir" => some .outDir
  | "functions" => some .functions
  | "counters" => some .counters
  | "names-len" => some .namesLength
  | "log-level" => some .logFilter
  | _ => none

/-- The value of decimal digits; there has to be one. -/
def digits? (cs : List Char) : Option Nat :=
  if cs ≠ [] ∧ cs.all Char.isDigit then
    some (cs.foldl (fun n c => 10 * n + (c.toNat - '0'.toNat)) 0)
  else none

/-- The value of digits after an optional sign. -/
def integer? (text : String) : Option Int :=
  match text.toList with
  | '-' :: cs => (digits? cs).map fun n => -(n : Int)
  | '+' :: cs => (digits? cs).map Int.ofNat
  | cs => (digits? cs).map Int.ofNat

/-- A 32-bit count. A minus sign is read, so that minus zero is zero. -/
def count32? (text : String) : Option UInt32 :=
  match integer? text with
  | some (.ofNat n) => if n < UInt32.size then some (.ofNat n) else none
  | _ => none

/-- A 64-bit count, with an optional plus sign. -/
def count64? (text : String) : Option UInt64 :=
  let digits := match text.toList with
    | '+' :: cs => digits? cs
    | cs => digits? cs
  match digits with
  | some n => if n < UInt64.size then some (.ofNat n) else none
  | none => none

/-- A path is not empty. -/
def path? (text : String) : Option String := if text = "" then none else some text

/-- Gives an option a value: the first one, and one that can be read. -/
def Given.set (g : Given) (name : OptionName) (text : String) : Except Refusal Given :=
  match name with
  | .outDir => place g.outDir (path? text) fun v => { g with outDir := some v }
  | .functions => place g.functions (count32? text) fun v => { g with functions := some v }
  | .counters => place g.counters (count32? text) fun v => { g with counters := some v }
  | .namesLength => place g.namesLength (count64? text) fun v => { g with namesLength := some v }
  | .logFilter => place g.logFilter (some text) fun v => { g with logFilter := some v }
where
  place {α : Type} (old new : Option α) (fill : α → Given) : Except Refusal Given :=
    match old, new with
    | none, some v => .ok (fill v)
    | _, _ => .error .usage

/-- The text before the first equals sign, and the text after it, if there is one. -/
def splitValue : List Char → List Char × Option (List Char)
  | [] => ([], none)
  | '=' :: cs => ([], some cs)
  | c :: cs =>
    let (name, value) := splitValue cs
    (c :: name, value)

def isSeparateValue (text : String) : Bool := text == "-" || text.toList.head? != some '-'

/-- Reads the command line from left to right. Nothing may follow a double dash. -/
def Given.read (g : Given) : List String → Except Refusal Given
  | [] => .ok g
  | word :: rest =>
    match word.toList with
    | ['-', '-'] => if rest = [] then .ok g else .error .usage
    | '-' :: 'h' :: _ => .error .help
    | '-' :: '-' :: text =>
      match splitValue text with
      | (['h', 'e', 'l', 'p'], none) => .error .help
      | (name, attached) =>
        match OptionName.ofText? (String.ofList name), attached, rest with
        | none, _, _ => .error .usage
        | some option, some value, rest => do
          (← g.set option (String.ofList value)).read rest
        | some _, none, [] => .error .usage
        | some option, none, value :: rest =>
          if isSeparateValue value then do (← g.set option value).read rest
          else .error .usage
    | _ => .error .usage

/-- The variables that stand in for options. -/
def outDirVariable : String := "PROFRT_OUT_DIR"

def logFilterVariable : String := "PROFRT_LOG"

/-- Fills in options that were not given, from the environment or by default. -/
def Given.complete (g : Given) (environment : String → Option String) : Except Refusal Options := do
  let defaults : Options := {}
  let g ← match g.outDir, environment outDirVariable with
    | none, some text => g.set .outDir text
    | _, _ => pure g
  let g ← match g.logFilter, environment logFilterVariable with
    | none, some text => g.set .logFilter text
    | _, _ => pure g
  return {
    outDir := g.outDir.getD defaults.outDir
    functions := g.functions.getD defaults.functions
    counters := g.counters.getD defaults.counters
    namesLength := g.namesLength.getD defaults.namesLength
    logFilter := g.logFilter.getD defaults.logFilter }

def Options.parse (args : List String) (environment : String → Option String) :
    Except Refusal Options := do
  (← Given.read {} args).complete environment

end RawProfile.Command
