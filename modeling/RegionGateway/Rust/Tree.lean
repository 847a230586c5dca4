import RegionGateway.Text.Blank

/-!
# Rust declarations

The part of Rust that generated files consist of, as trees, and their layout. A block is indented by
four spaces, every declaration is followed by a blank line. Names and literals are printed as they
are; whether the result is legal depends on them.
-/

namespace RegionGateway.Rust

/-! ## Types -/

/-- A type. -/
inductive Ty where
  /-- A name in scope. -/
  | name (text : String)
  /-- A name inside a module. -/
  | inModule (module text : String)
  /-- A type constructor with arguments. -/
  | apply (head : String) (arguments : List Ty)
  /-- A reference. -/
  | borrowed (mutable : Bool) (target : Ty)
  /-- Any type that implements a trait. -/
  | dynamic (text : String)
  | slice (item : Ty)
  | tuple (items : List Ty)

namespace Ty

mutual
/-- The text of a type. -/
def text : Ty → String
  | .name t => t
  | .inModule module t => module ++ "::" ++ t
  | .apply head arguments => head ++ "<" ++ Text.join ", " (texts arguments) ++ ">"
  | .borrowed mutable target => (if mutable then "&mut " else "&") ++ text target
  | .dynamic t => "dyn " ++ t
  | .slice item => "[" ++ text item ++ "]"
  | .tuple items => "(" ++ Text.join ", " (texts items) ++ ")"

/-- The texts of types. -/
def texts : List Ty → List String
  | [] => []
  | t :: ts => text t :: texts ts
end

/-- Text that is borrowed. -/
def str : Ty := .borrowed false (.name "str")

/-- The type without information. -/
def unit : Ty := .tuple []

end Ty

/-! ## Expressions -/

/-- An expression. -/
inductive Expr where
  /-- A number, a path, a local variable or a field of one. -/
  | place (text : String)
  /-- A string literal; its content is printed as it is. -/
  | literal (content : String)
  /-- A call of a function in scope, or of one with a mark after its name. -/
  | call (function : String) (arguments : List Expr)
  /-- A call of a method. -/
  | method (object : Expr) (name : String) (arguments : List Expr)
  | borrow (mutable : Bool) (e : Expr)
  | negate (e : Expr)
  | either (a b : Expr)
  | equal (a b : Expr)
  /-- Hands a failure on to the caller. -/
  | propagate (e : Expr)
  | await (e : Expr)
  /-- Waits, with the word on a line of its own. -/
  | awaitBelow (e : Expr)
  /-- A value of a struct, one field a line. -/
  | record (type : String) (fields : List (String × Expr))
  | pair (a b : Expr)
  /-- A closure with one parameter. -/
  | closure (parameter : String) (type : Ty) (body : Expr)
  /-- A choice by patterns. -/
  | choice (subject : Expr) (arms : List (String × Expr))

/-- The space before a line of a block at a nesting depth. -/
def indent (depth : Nat) : String := String.ofList (List.replicate (4 * depth) ' ')

namespace Expr

mutual
/-- The text of an expression that starts on a line of a block at a nesting depth. -/
def text (depth : Nat) : Expr → String
  | .place t => t
  | .literal content => "\"" ++ content ++ "\""
  | .call function arguments => function ++ "(" ++ Text.join ", " (texts depth arguments) ++ ")"
  | .method object name arguments =>
    text depth object ++ "." ++ name ++ "(" ++ Text.join ", " (texts depth arguments) ++ ")"
  | .borrow mutable e => (if mutable then "&mut " else "&") ++ text depth e
  | .negate e => "!" ++ text depth e
  | .either a b => text depth a ++ " || " ++ text depth b
  | .equal a b => text depth a ++ " == " ++ text depth b
  | .propagate e => text depth e ++ "?"
  | .await e => text depth e ++ ".await"
  | .awaitBelow e => text depth e ++ "\n" ++ indent depth ++ ".await"
  | .record type fields => type ++ " \x7b\n" ++ fieldLines (depth + 1) fields ++ indent depth ++ "\x7d"
  | .pair a b => "(" ++ text depth a ++ ", " ++ text depth b ++ ")"
  | .closure parameter type body =>
    "|" ++ parameter ++ ": " ++ type.text ++ "| \x7b\n" ++ indent (depth + 1) ++
      text (depth + 1) body ++ "\n" ++ indent depth ++ "\x7d"
  | .choice subject arms =>
    "match " ++ text depth subject ++ " \x7b\n" ++ armLines (depth + 1) arms ++ indent depth ++ "\x7d"

/-- The texts of expressions. -/
def texts (depth : Nat) : List Expr → List String
  | [] => []
  | e :: es => text depth e :: texts depth es

/-- The lines of a struct's fields. -/
def fieldLines (depth : Nat) : List (String × Expr) → String
  | [] => ""
  | (name, e) :: rest =>
    indent depth ++ name ++ ": " ++ text depth e ++ ",\n" ++ fieldLines depth rest

/-- The lines of the arms of a choice. -/
def armLines (depth : Nat) : List (String × Expr) → String
  | [] => ""
  | (pattern, e) :: rest =>
    indent depth ++ pattern ++ " => " ++ text depth e ++ ",\n" ++ armLines depth rest
end

end Expr

/-! ## Statements -/

/-- A statement. -/
inductive Stmt where
  /-- Binds a pattern to a value. -/
  | bind (pattern : String) (type : Option Ty) (value : Expr)
  /-- Binds a pattern, or else runs statements that do not return. -/
  | bindElse (pattern : String) (value : Expr) (otherwise : List Stmt)
  | assign (place : String) (value : Expr)
  | run (e : Expr)
  /-- The value of a block. -/
  | value (e : Expr)
  | giveBack (e : Expr)
  | whenTrue (condition : Expr) (body otherwise : List Stmt)
  | whenMatches (pattern : String) (subject : Expr) (body : List Stmt)
  | forEach (item : String) (items : Expr) (body : List Stmt)

namespace Stmt

mutual
/-- The text of a statement in a block at a nesting depth, without the line's end. -/
def text (depth : Nat) : Stmt → String
  | .bind pattern type e =>
    indent depth ++ "let " ++ pattern ++ (type.elim "" fun t => ": " ++ t.text) ++ " = " ++
      e.text depth ++ ";"
  | .bindElse pattern e otherwise =>
    indent depth ++ "let " ++ pattern ++ " = " ++ e.text depth ++ " else \x7b\n" ++
      lines (depth + 1) otherwise ++ indent depth ++ "\x7d;"
  | .assign place e => indent depth ++ place ++ " = " ++ e.text depth ++ ";"
  | .run e => indent depth ++ e.text depth ++ ";"
  | .value e => indent depth ++ e.text depth
  | .giveBack e => indent depth ++ "return " ++ e.text depth ++ ";"
  | .whenTrue condition body [] =>
    indent depth ++ "if " ++ condition.text depth ++ " \x7b\n" ++ lines (depth + 1) body ++
      indent depth ++ "\x7d"
  | .whenTrue condition body (s :: otherwise) =>
    indent depth ++ "if " ++ condition.text depth ++ " \x7b\n" ++ lines (depth + 1) body ++
      indent depth ++ "\x7d else \x7b\n" ++ lines (depth + 1) (s :: otherwise) ++ indent depth ++ "\x7d"
  | .whenMatches pattern subject body =>
    indent depth ++ "if let " ++ pattern ++ " = " ++ subject.text depth ++ " \x7b\n" ++
      lines (depth + 1) body ++ indent depth ++ "\x7d"
  | .forEach item items body =>
    indent depth ++ "for " ++ item ++ " in " ++ items.text depth ++ " \x7b\n" ++
      lines (depth + 1) body ++ indent depth ++ "\x7d"

/-- The lines of a block. -/
def lines (depth : Nat) : List Stmt → String
  | [] => ""
  | s :: rest => text depth s ++ "\n" ++ lines depth rest
end

end Stmt

/-! ## Declarations -/

/-- The parameters of a function with their types. -/
abbrev Parameters := List (String × Ty)

/-- A parameter with its type. -/
def parameterText (p : String × Ty) : String := p.1 ++ ": " ++ p.2.text

/-- A public asynchronous function. -/
structure Function where
  docs : List String
  attributes : List String
  name : String
  parameters : Parameters
  result : Option Ty
  /-- The traits that the type parameter `B` implements, if there is that parameter. -/
  bounds : Option (List String)
  body : List Stmt

/-- An asynchronous method that a trait asks for. -/
structure Signature where
  doc : String
  name : String
  parameters : Parameters
  result : Ty

/-- A public field that has another name in JSON. -/
structure Field where
  doc : String
  jsonName : String
  name : String
  type : Ty

/-- What an implementation of a trait consists of. -/
inductive ImplMember where
  /-- An associated type. -/
  | type (name : String) (definition : Ty)
  /-- A method whose body is one statement. -/
  | method (mutable : Bool) (name : String) (parameters : Parameters) (result : Option Ty)
    (body : Stmt)

/-- A declaration. -/
inductive Item where
  | function (f : Function)
  /-- A trait with asynchronous methods. -/
  | backend (doc name : String) (methods : List Signature)
  /-- A constant slice; each row may have comments before it. -/
  | table (doc : String) (isPublic : Bool) (name : String) (item : Ty)
    (rows : List (List String × Expr))
  | record (doc name : String) (derives : List String) (fields : List Field)
  | impl (interface name : String) (members : List ImplMember)
  | alias (doc name target : String)

/-- The line of a doc comment. -/
def docLine (doc : String) : String := "/// " ++ doc ++ "\n"

/-- The line of a comment inside a table. -/
def commentLine (line : String) : String :=
  if line = "" then "    //\n" else "    // " ++ line ++ "\n"

namespace Function

/-- The text of a function. -/
def text (f : Function) : String :=
  let parameter := fun p => "    " ++ parameterText p ++ ",\n"
  let result := f.result.elim "" fun t => " -> " ++ t.text
  Text.join "" (f.docs.map docLine) ++ Text.join "" (f.attributes.map (· ++ "\n")) ++
    "pub async fn " ++ f.name ++ (if f.bounds.isSome then "<B>" else "") ++ "(\n" ++
    Text.join "" (f.parameters.map parameter) ++ ")" ++ result ++
    (match f.bounds with
      | none => " \x7b\n"
      | some bounds => "\nwhere\n    B: " ++ Text.join " + " bounds ++ " + ?Sized,\n\x7b\n") ++
    Stmt.lines 1 f.body ++ "\x7d\n"

end Function

/-- The lines of a method that a trait asks for. -/
def Signature.text (s : Signature) : String :=
  "    /// " ++ s.doc ++ "\n    async fn " ++ s.name ++ "(&self" ++
    Text.join "" (s.parameters.map fun p => ", " ++ parameterText p) ++ ") -> " ++ s.result.text ++ ";\n"

/-- The lines of a field. -/
def Field.text (f : Field) : String :=
  "    /// " ++ f.doc ++ "\n    #[serde(rename = \"" ++ f.jsonName ++ "\")]\n    pub " ++ f.name ++ ": " ++
    f.type.text ++ ",\n"

/-- The line of a part of an implementation. -/
def ImplMember.text : ImplMember → String
  | .type name definition => "    type " ++ name ++ " = " ++ definition.text ++ ";\n"
  | .method mutable name parameters result body =>
    "    fn " ++ name ++ (if mutable then "(&mut self" else "(&self") ++
      Text.join "" (parameters.map fun p => ", " ++ parameterText p) ++ ")" ++
      (result.elim "" fun t => " -> " ++ t.text) ++ " \x7b " ++ body.text 0 ++ " \x7d\n"

namespace Item

/-- The text of a declaration, without the blank line after it. -/
def lines : Item → String
  | .function f => f.text
  | .backend doc name methods =>
    docLine doc ++ "#[async_trait]\npub trait " ++ name ++ ": Send + Sync \x7b\n" ++
      Text.join "" (methods.map Signature.text) ++ "\x7d\n"
  | .table doc isPublic name item rows =>
    let row := fun (r : List String × Expr) =>
      Text.join "" (r.1.map commentLine) ++ "    " ++ r.2.text 1 ++ ",\n"
    docLine doc ++ (if isPublic then "pub const " else "const ") ++ name ++ ": " ++
      (Ty.borrowed false (.slice item)).text ++ " = &[\n" ++ Text.join "" (rows.map row) ++ "];\n"
  | .record doc name derives fields =>
    docLine doc ++ "#[derive(" ++ Text.join ", " derives ++ ")]\npub struct " ++ name ++ " \x7b\n" ++
      Text.join "" (fields.map Field.text) ++ "\x7d\n"
  | .impl interface name members =>
    "impl " ++ interface ++ " for " ++ name ++ " \x7b\n" ++ Text.join "\n" (members.map ImplMember.text) ++
      "\x7d\n"
  | .alias doc name target => docLine doc ++ "pub type " ++ name ++ " = " ++ target ++ ";\n"

/-- The text of a declaration. -/
def text (item : Item) : String := item.lines ++ "\n"

end Item

end RegionGateway.Rust
