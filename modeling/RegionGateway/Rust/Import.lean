import RegionGateway.Rust.Name

/-!
# Imports

What a generated file imports: symbols by the path they come from, both sorted. The record is kept
while declarations are emitted and printed as the head of the file.
-/

namespace RegionGateway.Rust

/-- A symbol and the path it is imported from. -/
structure Use where
  path : String
  symbol : String
  deriving DecidableEq

/-- The symbols imported from each path, sorted by path and by symbol. -/
structure Imports where
  entries : List (String × List String)
  deriving DecidableEq

namespace Imports

/-- Nothing imported. -/
def empty : Imports := ⟨[]⟩

/-- A sorted list with one more symbol, if it is not there already. -/
def insertSymbol (symbol : String) : List String → List String
  | [] => [symbol]
  | other :: rest =>
    if symbol = other then other :: rest
    else if symbol < other then symbol :: other :: rest
    else other :: insertSymbol symbol rest

/-- Sorted entries with one more use. -/
def insertUse (use : Use) : List (String × List String) → List (String × List String)
  | [] => [(use.path, [use.symbol])]
  | (path, symbols) :: rest =>
    if use.path = path then (path, insertSymbol use.symbol symbols) :: rest
    else if use.path < path then (use.path, [use.symbol]) :: (path, symbols) :: rest
    else (path, symbols) :: insertUse use rest

/-- Imports with one more use. -/
def record (imports : Imports) (use : Use) : Imports := ⟨insertUse use imports.entries⟩

/-- Imports with more uses. -/
def recordAll (imports : Imports) (uses : List Use) : Imports := uses.foldl record imports

/-- The symbols imported from a path. -/
def symbolsOf (imports : Imports) (path : String) : List String :=
  (imports.entries.lookup path).getD []

/-- The line that imports symbols from a path. -/
def line (path : String) : List String → String
  | [symbol] => "use " ++ path ++ "::" ++ symbol ++ ";\n"
  | symbols => "use " ++ path ++ "::\x7b" ++ Text.join ", " symbols ++ "\x7d;\n"

/-- The lines of all imports. -/
def text (imports : Imports) : String :=
  Text.join "" (imports.entries.map fun entry => line entry.1 entry.2)

end Imports

/-- The use that brings a module into scope under its local name; none for a path of one segment,
which is in scope already. -/
def moduleUse? (path : String) : Option Use :=
  match afterDoubleColon? path.toList with
  | none => none
  | some name =>
    some ⟨String.ofList (path.toList.take (path.toList.length - name.length - 2)), String.ofList name⟩

end RegionGateway.Rust
