import RawProfile.Session

/-!
# The specimen

The made-up program that the demo command profiles: records, counters and names at fixed places in
sparse memory, registered in the order of a start-up, the sentinel first and the names last.
-/

namespace RawProfile.Specimen

/-- How much of everything there is. -/
structure Size where
  functions : UInt32
  /-- Counters per function. -/
  counters : UInt32
  /-- Bytes of names. -/
  namesLength : UInt64
  deriving DecidableEq, Repr

def sentinel : UInt64 := 0x1000

def dataBase : UInt64 := 0x100000

def countersBase : UInt64 := 0x1000000

def namesBase : UInt64 := 0x10000000

/-- The factor that spreads the name references. -/
def nameRefStep : UInt64 := 0x9e3779b97f4a7c15

def recordAddress (i : Nat) : UInt64 := dataBase + .ofNat (i * FunctionRecord.byteCount)

def countersAddress (size : Size) (i : Nat) : UInt64 :=
  countersBase + .ofNat (i * size.counters.toNat * counterSize.toNat)

/-- Where the record of a function lies, and its counters from there. -/
def site (size : Size) (i : Nat) : RecordSite where
  address := recordAddress i
  counterOffset := (countersAddress size i - recordAddress i).toInt64
  numCounters := size.counters

def record (size : Size) (i : Nat) : FunctionRecord where
  nameRef := nameRefStep * .ofNat (i + 1)
  funcHash := .ofNat i
  counterPtr := countersAddress size i - recordAddress i
  numCounters := size.counters

/-- The counters of a function: multiples of its number, counted from one. -/
def counterValues (size : Size) (i : Nat) : List UInt64 :=
  (List.range size.counters.toNat).map fun j => .ofNat ((i + 1) * (j + 1))

def nameText : ByteArray := "profrt_fn".toUTF8.push 0

def names (size : Size) : ByteArray :=
  ((List.range size.namesLength.toNat).map fun i =>
    (nameText.data[i % nameText.size]?).getD 0).toByteArray

def memory (size : Size) : Except WordFault SparseMemory := do
  let functions ← (List.range size.functions.toNat).foldlM (fun (m : SparseMemory) i => do
    (← m.writeRecord (recordAddress i) (record size i)).writeCounters (countersAddress size i)
      (counterValues size i)) .empty
  if size.namesLength = 0 then return functions
  else functions.write namesBase (names size)

/-- The registrations at the start of the program. -/
def registrations (size : Size) : List Session.Action :=
  .registerData { address := sentinel } ::
    (List.range size.functions.toNat).map (fun i => .registerData (site size i)) ++
    if size.namesLength = 0 then [] else [.registerNames namesBase size.namesLength]

/-- The session after the start of the program. -/
def session (size : Size) : Logged Session :=
  let start := (Session.ofWidth .native).withSentinel sentinel
  (registrations size).foldlM register start
where
  register (s : Session) : Session.Action → Logged Session
    | .registerData site => return (← s.registerData site).2
    | .registerNames start length => s.registerNames start length
    | _ => pure s

end RawProfile.Specimen
