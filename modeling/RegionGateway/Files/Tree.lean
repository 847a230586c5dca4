import RegionGateway.Attempt
import RegionGateway.Files.Disk

/-!
# Files in memory

A tree of directories and files, seen from a working directory. `FileTree.entryAt` says what stands at
a place; `FileTree.disk` are the operations on files.
-/

namespace RegionGateway

/-- What stands at a place of a tree. -/
inductive Entry where
  | file (content : Bytes)
  | directory
  deriving DecidableEq

/-- The names on the way from the root. -/
abbrev Place := List String

/-- Files and directories. The root is always there and not listed. -/
structure FileTree where
  entries : List (Place × Entry)
  /-- Where relative paths start. -/
  workingDirectory : Place
  deriving DecidableEq

namespace FileTree

/-- What stands at a place. -/
def entryAt (tree : FileTree) (place : Place) : Option Entry :=
  if place = [] then some .directory else tree.entries.lookup place

/-- A tree with an entry at a place, instead of what stood there. -/
def put (tree : FileTree) (place : Place) (entry : Entry) : FileTree :=
  { tree with entries := (place, entry) :: tree.entries.filter fun e => e.1 != place }

/-- The place that a part of a path leads to. -/
def move (place : Place) (part : String) : Place :=
  if part = "" ∨ part = "." then place
  else if part = ".." then place.dropLast
  else place ++ [part]

/-- Whether a part of a path is longer than names may be. -/
def isTooLong (part : String) : Bool := 255 < part.utf8ByteSize

/-- The place that parts of a path lead to; all but the last lead through directories. -/
def walk (tree : FileTree) : Place → List String → Except IoError Place
  | place, [] => .ok place
  | place, part :: parts =>
    match tree.entryAt place with
    | some .directory => if isTooLong part then .error .nameTooLong else walk tree (move place part) parts
    | some (.file _) => .error .notDirectory
    | none => .error .notFound

/-- The place that a path starts at. -/
def start (tree : FileTree) (path : String) : Place :=
  if Path.isAbsolute path then [] else tree.workingDirectory

/-- Whether a path can be looked up at all. -/
def checkPath (path : String) : Except IoError Unit :=
  if path.toList.contains '\x00' then .error .nulInPath
  else if path = "" then .error .notFound
  else if 4096 ≤ path.utf8ByteSize then .error .nameTooLong
  else .ok ()

/-- The place that a path names. -/
def locate (tree : FileTree) (path : String) : Except IoError Place := do
  checkPath path
  tree.walk (tree.start path) (Text.split '/' path)

/-- Whether a path names a file or directory. -/
def isThere (tree : FileTree) (path : String) : Bool :=
  match tree.locate path with
  | .ok place => (tree.entryAt place).isSome
  | .error _ => false

/-- The contents of a file. -/
def read (tree : FileTree) (path : String) : Except IoError Bytes :=
  match tree.locate path with
  | .error e => .error e
  | .ok place =>
    match tree.entryAt place with
    | some (.file content) => .ok content
    | some .directory => .error .isDirectory
    | none => .error .notFound

/-- Whether a path names a directory. -/
def isDirectory (tree : FileTree) (path : String) : Bool :=
  match tree.locate path with
  | .ok place => tree.entryAt place == some .directory
  | .error _ => false

/-- Where something can be created that a path names: a directory, and the name below it. There is no
name if the path ends in dots that stand for a directory. -/
def site (tree : FileTree) (path : String) : Except IoError (Place × Option String) := do
  checkPath path
  let segments := Path.segments path
  let place ← tree.walk (tree.start path) (segments.dropLast ++ [""])
  if segments.getLast?.any isTooLong then throw .nameTooLong
  return (place, segments.getLast?.filter fun name => name != "." && name != "..")

/-- Replaces what a file holds by a function of what it held, if it was there. A path with a slash at
its end names no file. -/
def update (path : String) (content : Option Bytes → Bytes) : Attempt FileTree IoError Unit := do
  let tree ← get
  match ← Attempt.ofExcept (tree.site path) with
  | (_, none) => throw .isDirectory
  | (place, some name) =>
    if Path.endsInSlash path then throw .isDirectory
    match tree.entryAt (place ++ [name]) with
    | some .directory => throw .isDirectory
    | some (.file old) => set (tree.put (place ++ [name]) (.file (content (some old))))
    | none => set (tree.put (place ++ [name]) (.file (content none)))

/-- Creates a directory. -/
def makeDirectory (path : String) : Attempt FileTree IoError Unit := do
  let tree ← get
  match ← Attempt.ofExcept (tree.site path) with
  | (_, none) => throw .alreadyExists
  | (place, some name) =>
    if (tree.entryAt (place ++ [name])).isSome then throw .alreadyExists
    set (tree.put (place ++ [name]) .directory)

/-- Creates a directory, unless it exists. -/
def ensureDirectory (path : String) : Attempt FileTree IoError Unit := fun tree =>
  match makeDirectory path tree with
  | (.error e, tree) => (if tree.isDirectory path then .ok () else .error e, tree)
  | done => done

/-- Whether a directory cannot be created because the one it would stand in does not exist. -/
def lacksParent (tree : FileTree) (path : String) : Bool :=
  match (makeDirectory path tree).1 with
  | .error .notFound => true
  | _ => false

/-- Creates a directory, unless it exists, given its path and those of the directories above it. They
are created first as far as they are missing. -/
def makeBelow : List String → Attempt FileTree IoError Unit
  | [] => return
  | path :: above => do
    if (← get).lacksParent path then makeBelow above
    ensureDirectory path

/-- The operations on a tree. -/
def disk : Disk (StateM FileTree) where
  isThere path := return (← get).isThere path
  read path := do Attempt.ofExcept ((← get).read path)
  write path content := update path fun _ => content
  makeDirectories path := if path = "" then return else makeBelow (path :: Path.above path)
  openAtEnd path := update path (·.getD [])

/-- The names that lead from a place to a place below it. -/
def relative? : Place → Place → Option Place
  | [], rest => some rest
  | _ :: _, [] => none
  | a :: as, b :: bs => if a = b then relative? as bs else none

/-- A sorted list of named things with one more. -/
def insertNamed (item : String × α) : List (String × α) → List (String × α)
  | [] => [item]
  | other :: rest =>
    if item.1 < other.1 then item :: other :: rest else other :: insertNamed item rest

/-- The files below a place with their paths from there, sorted by path. -/
def filesBelow (tree : FileTree) (place : Place) : List (String × Bytes) :=
  let file? := fun (e : Place × Entry) =>
    match relative? place e.1, e.2 with
    | some (part :: rest), .file content => some (Text.join "/" (part :: rest), content)
    | _, _ => none
  (tree.entries.filterMap file?).foldr insertNamed []

end FileTree

end RegionGateway
