/-!
# Address widths

The width of an address in the instrumented program decides the magic number of a profile file and
the size of a function record.
-/

namespace RawProfile

/-- The number of bits in an address of the instrumented program. -/
inductive Width where
  | bits32
  | bits64
  deriving DecidableEq, Repr

namespace Width

/-- The width of the machine that the library runs on. -/
def native : Width := .bits64

def name : Width → String
  | .bits32 => "Bits32"
  | .bits64 => "Bits64"

/-- The first word of a file: the bytes `0xff`, `lprofr` and `0x81` from the most significant one
down. A capital `R` marks 32-bit programs. -/
def magic : Width → UInt64
  | .bits32 => 0xff6c70726f665281
  | .bits64 => 0xff6c70726f667281

def pointerSize : Width → UInt64
  | .bits32 => 4
  | .bits64 => 8

/-- Bytes in a function record: two identity words, four addresses, and 16 bytes of counts. -/
def recordSize (w : Width) : UInt64 := 16 + 4 * w.pointerSize + 16

/-- The width that a magic number announces. -/
def ofMagic? (word : UInt64) : Option Width :=
  if word = bits64.magic then some .bits64
  else if word = bits32.magic then some .bits32
  else none

@[simp] theorem ofMagic?_magic (w : Width) : ofMagic? w.magic = some w := by
  cases w <;> rfl

end Width

end RawProfile
