import RegionGateway.Text.Blank

/-!
# Paths

Paths as they are written: parts between slashes, from the root if the text begins with one. Empty
parts and single dots name the directory they stand in.
-/

namespace RegionGateway.Path

/-- Whether a path starts at the root. -/
def isAbsolute (path : String) : Bool := Text.startsWith "/" path

/-- A path below a directory; an absolute path stands for itself. -/
def below (directory path : String) : String :=
  if isAbsolute path || directory == "" then path
  else if directory.toList.getLast? = some '/' then directory ++ path
  else directory ++ "/" ++ path

/-- Whether a path ends in a slash. -/
def endsInSlash (path : String) : Bool := path.toList.getLast? == some '/'

/-- What stands between the slashes of a path, without those at its end. -/
def segments (path : String) : List String := Text.dropEndWhile (· == "") (Text.split '/' path)

/-- The parts of a path that lead to another directory. -/
def parts (path : String) : List String :=
  (Text.split '/' path).filter fun part => part != "" && part != "."

/-- The path that some parts of another path make up. -/
def ofParts (path : String) (parts : List String) : String :=
  (if isAbsolute path then "/" else "") ++ Text.join "/" parts

/-- The path of the directory that a path's last part stands in; none if there is no part. -/
def parent? (path : String) : Option String :=
  match parts path with
  | [] => none
  | part :: rest => some (ofParts path (part :: rest).dropLast)

/-- The paths of the directories on the way to the last part of a path, the nearest first. -/
def above (path : String) : List String :=
  let parts := parts path
  (((List.range parts.length).drop 1).map fun n => ofParts path (parts.take n)).reverse

end RegionGateway.Path
