import RawProfile.Bindings
import RawProfile.Bytes

/-!
# File systems

As much of a file system as opening files for writing needs: directories, plain files, and the two
devices that take every byte or none. Paths are resolved name by name, and an opening that fails
says why in the words of the operating system. A file, once open, is written at its own offset.
-/

namespace RawProfile

inductive FileError where
  | noEntry
  | notDirectory
  | isDirectory
  | noSpace
  | nameTooLong
  /-- The path holds a zero byte and was never passed on. -/
  | zeroByte
  deriving DecidableEq, Repr

def FileError.message : FileError → String
  | .noEntry => "No such file or directory (os error 2)"
  | .notDirectory => "Not a directory (os error 20)"
  | .isDirectory => "Is a directory (os error 21)"
  | .noSpace => "No space left on device (os error 28)"
  | .nameTooLong => "File name too long (os error 36)"
  | .zeroByte => "file name contained an unexpected NUL byte"

inductive Device where
  /-- Takes every byte and keeps none. -/
  | null
  /-- Takes no byte. -/
  | full
  deriving DecidableEq, Repr

/-- What a name can stand for. -/
inductive Node where
  | directory
  | file (content : ByteArray)
  | device (device : Device)
  deriving DecidableEq

/-- A place in a file system: the names on the way from the root. -/
abbrev Location : Type := List String

namespace PathText

def maxName : Nat := 255

def maxPath : Nat := 4095

/-- The pieces between the slashes. -/
def pieces : List Char → List (List Char)
  | [] => [[]]
  | c :: cs =>
    if c = '/' then [] :: pieces cs
    else match pieces cs with
      | [] => [[c]]
      | p :: ps => (c :: p) :: ps

/-- The names in a path; repeated slashes count as one. -/
def names (path : String) : List String :=
  ((pieces path.toList).filter (· ≠ [])).map String.ofList

def isAbsolute (path : String) : Bool := path.toList.head? = some '/'

def endsInSlash (path : String) : Bool := path.toList.getLast? = some '/'

def join (directory path : String) : String :=
  if isAbsolute path then path
  else if directory = "" ∨ endsInSlash directory then directory ++ path
  else directory ++ "/" ++ path

end PathText

/-- The nodes of a file system, less its root. -/
structure FileSystem where
  nodes : List (Location × Node) := []
  workingDirectory : Location := []
  deriving DecidableEq

/-- A file that is open for writing. -/
structure OpenFile where
  location : Location
  offset : Nat := 0
  deriving DecidableEq, Repr

def OpenFile.advance (f : OpenFile) (count : Nat) : OpenFile :=
  { f with offset := f.offset + count }

namespace FileSystem

def find? (fs : FileSystem) (l : Location) : Option Node :=
  if l = [] then some .directory else Bindings.get? l fs.nodes

def put (fs : FileSystem) (l : Location) (node : Node) : FileSystem :=
  { fs with nodes := Bindings.put l node fs.nodes }

def content? (fs : FileSystem) (l : Location) : Option ByteArray :=
  match fs.find? l with
  | some (.file content) => some content
  | _ => none

def addDirectory (fs : FileSystem) (l : Location) : FileSystem :=
  (List.range l.length).foldl (fun fs n =>
    let ancestor := l.take (n + 1)
    if (fs.find? ancestor).isNone then fs.put ancestor .directory else fs) fs

/-- Puts a file at a location, below directories made as needed. -/
def addFile (fs : FileSystem) (l : Location) (content : ByteArray) : FileSystem :=
  (fs.addDirectory l.dropLast).put l (.file content)

def step (fs : FileSystem) (l : Location) (name : String) : Except FileError Location :=
  if fs.find? l ≠ some .directory then .error .notDirectory
  else if name = "." then .ok l
  else if name = ".." then .ok l.dropLast
  else if PathText.maxName < name.utf8ByteSize then .error .nameTooLong
  else if (fs.find? (l ++ [name])).isNone then .error .noEntry
  else .ok (l ++ [name])

def walk (fs : FileSystem) (l : Location) (names : List String) : Except FileError Location :=
  names.foldlM fs.step l

/-- Where the names of a path are followed from. -/
def origin (fs : FileSystem) (path : String) : Location :=
  if PathText.isAbsolute path then [] else fs.workingDirectory

/-- The directory at a path. -/
def directory? (fs : FileSystem) (path : String) : Option Location :=
  if path = "" ∨ PathText.maxPath < path.utf8ByteSize ∨ '\x00' ∈ path.toList then none
  else match fs.walk (fs.origin path) (PathText.names path) with
    | .ok l => if fs.find? l = some .directory then some l else none
    | .error _ => none

/-- Where a file may be created or emptied: the name is the last one of the path, and neither ends
in a slash nor stands for a directory. -/
def target (fs : FileSystem) (path : String) : Except FileError Location :=
  if '\x00' ∈ path.toList then .error .zeroByte
  else if path = "" then .error .noEntry
  else if PathText.maxPath < path.utf8ByteSize then .error .nameTooLong
  else
    let names := PathText.names path
    match names.getLast? with
    | none => .error .isDirectory
    | some name => do
      let parent ← fs.walk (fs.origin path) names.dropLast
      if fs.find? parent ≠ some .directory then .error .notDirectory
      else if name = "." ∨ name = ".." ∨ PathText.endsInSlash path then .error .isDirectory
      else if PathText.maxName < name.utf8ByteSize then .error .nameTooLong
      else if fs.find? (parent ++ [name]) = some .directory then .error .isDirectory
      else .ok (parent ++ [name])

/-- Opens a file for writing: it is created, or emptied if it exists. -/
def openForWriting (fs : FileSystem) (path : String) :
    Except FileError (OpenFile × FileSystem) := do
  let l ← fs.target path
  match fs.find? l with
  | some (.device _) => return ({ location := l }, fs)
  | _ => return ({ location := l }, fs.put l (.file .empty))

/-- Content with bytes put at an offset; a gap before them is filled with zeros. -/
def patch (content : ByteArray) (offset : Nat) (bytes : ByteArray) : ByteArray :=
  if offset = content.size then content ++ bytes
  else
    content.extract 0 offset ++ zeroBytes (offset - content.size) ++ bytes ++
      content.extract (offset + bytes.size) content.size

theorem patch_eq (content : ByteArray) (offset : Nat) (bytes : ByteArray) :
    patch content offset bytes =
      content.extract 0 offset ++ zeroBytes (offset - content.size) ++ bytes ++
        content.extract (offset + bytes.size) content.size := by
  unfold patch
  split
  · next h =>
    have hend : content.extract (offset + bytes.size) content.size = .empty :=
      ByteArray.extract_eq_empty_iff.2 (by omega)
    have hgap : zeroBytes 0 = .empty := rfl
    rw [hend, h, ByteArray.extract_zero_size, Nat.sub_self, hgap, ByteArray.append_empty,
      ByteArray.append_empty]
  · rfl

/-- Why nothing can be written to an open file. -/
def refusal? (fs : FileSystem) (f : OpenFile) : Option FileError :=
  match fs.find? f.location with
  | some (.file _) => none
  | some (.device .null) => none
  | some (.device .full) => some .noSpace
  | some .directory => some .isDirectory
  | none => some .noEntry

/-- Writes bytes at the offset of an open file; only a plain file keeps them. -/
def write (fs : FileSystem) (f : OpenFile) (bytes : ByteArray) : FileSystem :=
  { fs with nodes := Bindings.modify f.location (patchNode f.offset bytes) fs.nodes }
where
  patchNode (offset : Nat) (bytes : ByteArray) : Node → Node
    | .file content => .file (patch content offset bytes)
    | node => node

/-- Directories and files below a location by their paths from there, in order; a directory's path
ends in a slash. -/
def listing (fs : FileSystem) (l : Location) : List (String × Option ByteArray) :=
  let below := fs.nodes.filterMap fun (place, node) =>
    if l.isPrefixOf place ∧ place ≠ l then
      let path := "/".intercalate (place.drop l.length)
      match node with
      | .directory => some (path ++ "/", none)
      | .file content => some (path, some content)
      | .device _ => none
    else none
  below.mergeSort fun a b => a.1 ≤ b.1

end FileSystem

end RawProfile
