import RegionGateway.Toml.Value

/-!
# Tables under construction

A document defines its tables in pieces: by headers, by dotted keys and in place. A table is defined
once; only tables that headers or dotted keys have implied on the way to others may still be defined or
extended, each in its own manner.
-/

namespace RegionGateway.Toml

/-- How a table has come about. -/
inductive Standing where
  /-- A header leads through it. -/
  | implied
  /-- A dotted key leads through it. -/
  | dotted
  /-- It is defined. -/
  | defined
  deriving DecidableEq

/-- A value, a table that may still grow, or a list of such tables. -/
inductive Node where
  | value (v : Toml)
  | table (standing : Standing) (members : List (String × Node))
  /-- The tables of a repeated header; the first in the list is the last in the document. -/
  | repeated (tables : List (List (String × Node)))

namespace Node

/-- The members of a table. -/
abbrev Members := List (String × Node)

/-- Members with a node under a key: instead of the one that is there, or at the end. -/
def assign (key : String) (node : Node) : Members → Members
  | [] => [(key, node)]
  | (k, n) :: rest => if k = key then (key, node) :: rest else (k, n) :: assign key node rest

/-- Changes the table that a path of keys leads to. Tables on the way are created. Dotted keys do not
lead through defined tables. -/
def within (dotted : Bool) (change : Standing → Members → Option Members) :
    List String → Standing → Members → Option Members
  | [], standing, members => change standing members
  | key :: path, _, members =>
    match members.lookup key with
    | none => do
      let standing := if dotted then Standing.dotted else .implied
      let inner ← within dotted change path standing []
      return assign key (.table standing inner) members
    | some (.table standing inner) =>
      if dotted && standing == .defined then none
      else do
        let inner ← within dotted change path standing inner
        return assign key (.table standing inner) members
    | some (.repeated (last :: others)) => do
      let last ← within dotted change path .defined last
      return assign key (.repeated (last :: others)) members
    | some _ => none

/-- Adds a value under a key that is not there yet. -/
def addValue (key : String) (v : Toml) (members : Members) : Option Members :=
  if (members.lookup key).isSome then none else some (assign key (.value v) members)

/-- Adds a value under a dotted key to a table. -/
def addDotted (path : List String) (key : String) (v : Toml) (members : Members) : Option Members :=
  within true
    (fun standing members =>
      if path.isEmpty || standing == .dotted then addValue key v members else none)
    path .defined members

/-- Begins the table of a header. -/
def beginTable (path : List String) (key : String) (members : Members) : Option Members :=
  within false
    (fun _ members =>
      match members.lookup key with
      | none => some (assign key (.table .defined []) members)
      | some (.table .implied inner) => some (assign key (.table .defined inner) members)
      | some _ => none)
    path .defined members

/-- Begins one more table of a repeated header. -/
def beginRepeated (path : List String) (key : String) (members : Members) : Option Members :=
  within false
    (fun _ members =>
      match members.lookup key with
      | none => some (assign key (.repeated [[]]) members)
      | some (.repeated tables) => some (assign key (.repeated ([] :: tables)) members)
      | some _ => none)
    path .defined members

/-- Adds a value under a dotted key to the table of the last header. -/
def addBelow (header path : List String) (key : String) (v : Toml) (members : Members) :
    Option Members :=
  within false (fun _ members => addDotted path key v members) header .defined members

mutual
/-- The value of a node. -/
def finish : Node → Toml
  | .value v => v
  | .table _ members => .table (finishMembers members)
  | .repeated tables => .arr (finishTables tables).reverse

/-- The values of members. -/
def finishMembers : List (String × Node) → List (String × Toml)
  | [] => []
  | (key, node) :: rest => (key, finish node) :: finishMembers rest

/-- The values of the tables of a repeated header. -/
def finishTables : List (List (String × Node)) → List Toml
  | [] => []
  | members :: rest => .table (finishMembers members) :: finishTables rest
end

end Node

end RegionGateway.Toml
