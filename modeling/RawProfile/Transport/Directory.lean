import RawProfile.FileSystem
import RawProfile.Transport

/-!
# Files in a directory

A transport that creates or empties files below one directory of a file system. Every opening gets
a handle of its own, with an offset of its own, and handles are counted up from zero.
-/

namespace RawProfile

structure DirectoryOutput where
  fileSystem : FileSystem
  /-- The path of the directory; it need not exist. -/
  directory : String
  /-- The file of each handle that was given out; none once the handle is closed. -/
  files : List (Option OpenFile) := []
  deriving DecidableEq

namespace DirectoryOutput

/-- The open file that a handle stands for. -/
def file? (d : DirectoryOutput) (handle : Handle) : Option OpenFile :=
  (d.files[handle.index]?).join

/-- Creates or empties the file at a path below the directory. -/
def openFile (d : DirectoryOutput) (path : String) :
    Logged (Except OpenError Handle × DirectoryOutput) :=
  let full := PathText.join d.directory path
  match d.fileSystem.openForWriting full with
  | .error e => pure (.error ⟨full, e.message⟩, d)
  | .ok (file, fileSystem) =>
    ⟨(.ok ⟨d.files.length⟩, { d with fileSystem, files := d.files ++ [some file] }),
      [.outputOpened full]⟩

/-- Writes to the file of an open handle; any other handle takes nothing, and neither does an empty
write. -/
def write (d : DirectoryOutput) (handle : Handle) (bytes : ByteArray) :
    Logged (Nat × DirectoryOutput) :=
  match d.file? handle with
  | none => pure (0, d)
  | some file =>
    if bytes.size = 0 then pure (0, d)
    else match d.fileSystem.refusal? file with
      | some e => ⟨(0, d), [.outputRefused e.message]⟩
      | none => pure (bytes.size, { d with
          fileSystem := d.fileSystem.write file bytes
          files := d.files.set handle.index (some (file.advance bytes.size)) })

def close (d : DirectoryOutput) (handle : Handle) : DirectoryOutput :=
  { d with files := d.files.set handle.index none }

instance : Transport DirectoryOutput where
  name _ := "fs"
  openFile := openFile
  write := write
  close d handle := pure (d.close handle)

end DirectoryOutput

end RawProfile
