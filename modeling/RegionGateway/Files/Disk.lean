import RegionGateway.Files.Path
import RegionGateway.Text.Utf8

/-!
# Access to files

What a run asks of the place where its files are. `FileTree` keeps files in memory; a program uses the
files of its machine.
-/

namespace RegionGateway

/-- Why an operation on files fails. -/
inductive IoError where
  | notFound
  | alreadyExists
  | notDirectory
  | isDirectory
  | nameTooLong
  /-- A path has a character that ends paths. -/
  | nulInPath
  /-- A file that is read as text is no UTF-8. -/
  | notText
  | other (reason : String)
  deriving DecidableEq

/-- The wording of a failure. -/
def IoError.message : IoError → String
  | .notFound => "No such file or directory (os error 2)"
  | .alreadyExists => "File exists (os error 17)"
  | .notDirectory => "Not a directory (os error 20)"
  | .isDirectory => "Is a directory (os error 21)"
  | .nameTooLong => "File name too long (os error 36)"
  | .nulInPath => "file name contained an unexpected NUL byte"
  | .notText => "stream did not contain valid UTF-8"
  | .other reason => reason

/-- Operations on files, named by paths. -/
structure Disk (m : Type → Type) where
  /-- Whether there is a file or directory. -/
  isThere : String → m Bool
  /-- The contents of a file. -/
  read : String → ExceptT IoError m Bytes
  /-- Replaces the contents of a file, which need not exist. -/
  write : String → Bytes → ExceptT IoError m Unit
  /-- Creates a directory and those it stands in, unless they exist. -/
  makeDirectories : String → ExceptT IoError m Unit
  /-- Opens a file to write at its end; it is created if it does not exist. -/
  openAtEnd : String → ExceptT IoError m Unit

namespace Disk

/-- The text of a file. -/
def readText [Monad m] (disk : Disk m) (path : String) : ExceptT IoError m String := do
  match Utf8.text? (← disk.read path) with
  | some text => return text
  | none => throw .notText

/-- Replaces the text of a file. -/
def writeText (disk : Disk m) (path text : String) : ExceptT IoError m Unit :=
  disk.write path (Utf8.bytes text)

/-- Creates the directory that a path's last part stands in, unless it exists. -/
def makeParent [Monad m] (disk : Disk m) (path : String) : ExceptT IoError m Unit :=
  match Path.parent? path with
  | none => return
  | some parent => disk.makeDirectories parent

end Disk

end RegionGateway
