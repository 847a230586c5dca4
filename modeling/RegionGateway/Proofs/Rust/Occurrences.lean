import Mathlib.Data.List.Forall2
import RegionGateway.Rust.Tree

/-!
# What occurs in declarations

The expressions and statements that occur anywhere in a declaration (`Expr.parts`, `Stmt.collect`), and what
is read off them: the functions that are called, the variables that are bound, the lists whose length is
taken, and the types of other modules that are named (`Item.Names`).
-/

namespace RegionGateway.Rust

/-! ## Types -/

namespace Ty

mutual
/-- The types of modules that a type names, each with its module. -/
def references : Ty → List (String × String)
  | .name _ | .dynamic _ => []
  | .inModule module text => [(module, text)]
  | .apply _ arguments => allReferences arguments
  | .borrowed _ target => references target
  | .slice item => references item
  | .tuple items => allReferences items

/-- What types name. -/
def allReferences : List Ty → List (String × String)
  | [] => []
  | t :: ts => references t ++ allReferences ts
end

end Ty

/-! ## Expressions -/

namespace Expr

mutual
/-- An expression and those in it. -/
def parts : Expr → List Expr
  | .place t => [.place t]
  | .literal content => [.literal content]
  | .call function arguments => .call function arguments :: allParts arguments
  | .method object name arguments =>
    .method object name arguments :: (parts object ++ allParts arguments)
  | .borrow mutable e => .borrow mutable e :: parts e
  | .negate e => .negate e :: parts e
  | .either a b => .either a b :: (parts a ++ parts b)
  | .equal a b => .equal a b :: (parts a ++ parts b)
  | .propagate e => .propagate e :: parts e
  | .await e => .await e :: parts e
  | .awaitBelow e => .awaitBelow e :: parts e
  | .record type fields => .record type fields :: namedParts fields
  | .pair a b => .pair a b :: (parts a ++ parts b)
  | .closure parameter type body => .closure parameter type body :: parts body
  | .choice subject arms => .choice subject arms :: (parts subject ++ namedParts arms)

/-- Expressions and those in them. -/
def allParts : List Expr → List Expr
  | [] => []
  | e :: es => parts e ++ allParts es

/-- The values of fields, or the results of arms, and what is in them. -/
def namedParts : List (String × Expr) → List Expr
  | [] => []
  | (_, e) :: rest => parts e ++ namedParts rest
end

/-- What is found in each of an expression and those in it. -/
def collect {α : Type} (found : Expr → List α) (e : Expr) : List α := e.parts.flatMap found

theorem collect_choice {α : Type} (found : Expr → List α) (subject : Expr) (arms : List (String × Expr)) :
    collect found (.choice subject arms) = found (.choice subject arms) ++
      (collect found subject ++ arms.flatMap fun arm => collect found arm.2) := by
  have hparts : (namedParts arms).flatMap found = arms.flatMap fun arm => collect found arm.2 := by
    induction arms with
    | nil => rfl
    | cons arm rest ih =>
        rw [namedParts, List.flatMap_append, ih]
        rfl
  rw [← hparts, collect, collect, ← List.flatMap_append]
  rfl

theorem collect_places {α : Type} {found : Expr → List α} (h : ∀ text, found (.place text) = [])
    (texts : List String) : (allParts (texts.map .place)).flatMap found = [] := by
  induction texts with
  | nil => rfl
  | cons text rest ih =>
      show found (.place text) ++ (allParts (rest.map .place)).flatMap found = []
      rw [h, ih, List.append_nil]

/-- The call that an expression is: function and arguments. -/
def called : Expr → List (String × List Expr)
  | .call function arguments => [(function, arguments)]
  | _ => []

/-- The object whose length an expression is. -/
def measured : Expr → List Expr
  | .method object "len" _ => [object]
  | _ => []

/-- The struct that an expression makes a value of. -/
def made : Expr → List String
  | .record type _ => [type]
  | _ => []

/-- The types of modules that an expression names itself. -/
def annotated : Expr → List (String × String)
  | .closure _ type _ => type.references
  | _ => []

end Expr

/-! ## Statements -/

namespace Stmt

mutual
/-- A statement and those in it. -/
def parts : Stmt → List Stmt
  | .bind pattern type e => [.bind pattern type e]
  | .bindElse pattern e otherwise => .bindElse pattern e otherwise :: allParts otherwise
  | .assign place e => [.assign place e]
  | .run e => [.run e]
  | .value e => [.value e]
  | .giveBack e => [.giveBack e]
  | .whenTrue condition body otherwise =>
    .whenTrue condition body otherwise :: (allParts body ++ allParts otherwise)
  | .whenMatches pattern subject body => .whenMatches pattern subject body :: allParts body
  | .forEach item items body => .forEach item items body :: allParts body

/-- Statements and those in them. -/
def allParts : List Stmt → List Stmt
  | [] => []
  | s :: rest => parts s ++ allParts rest
end

/-- The expression of a statement, apart from those of the statements in it. -/
def head : Stmt → Expr
  | .bind _ _ e | .bindElse _ e _ | .assign _ e | .run e | .value e | .giveBack e => e
  | .whenTrue condition _ _ => condition
  | .whenMatches _ subject _ => subject
  | .forEach _ items _ => items

/-- What is found in each of the statements and those in them. -/
def collect {α : Type} (found : Stmt → List α) (statements : List Stmt) : List α :=
  (allParts statements).flatMap found

section

variable {α : Type} (found : Stmt → List α)

theorem collect_append (a b : List Stmt) : collect found (a ++ b) = collect found a ++ collect found b := by
  have hparts : allParts (a ++ b) = allParts a ++ allParts b := by
    induction a with
    | nil => rfl
    | cons s a ih => rw [List.cons_append, allParts, ih, allParts, List.append_assoc]
  rw [collect, hparts, List.flatMap_append]
  rfl

theorem collect_eq_flatMap (statements : List Stmt) :
    collect found statements = statements.flatMap fun s => collect found [s] := by
  induction statements with
  | nil => rfl
  | cons s rest ih => rw [List.flatMap_cons, ← ih, ← collect_append, List.singleton_append]

end

/-- The calls in a statement: functions and arguments. -/
def calls (s : Stmt) : List (String × List Expr) := s.head.collect Expr.called

/-- What a statement binds to a pattern, with its annotation. -/
def bindings : Stmt → List (String × Option Ty × Expr)
  | .bind pattern type e => [(pattern, type, e)]
  | _ => []

/-- The objects in a statement whose length is taken. -/
def measured (s : Stmt) : List Expr := s.head.collect Expr.measured

/-- The structs that a statement makes values of. -/
def made (s : Stmt) : List String := s.head.collect Expr.made

/-- The types of modules that a statement names. -/
def references : Stmt → List (String × String)
  | .bind _ (some type) e => type.references ++ e.collect Expr.annotated
  | s => s.head.collect Expr.annotated

end Stmt

/-! ## Declarations -/

/-- The types of modules that parameters and a result name. -/
def signatureReferences (parameters : Parameters) (result : Option Ty) : List (String × String) :=
  parameters.flatMap (·.2.references) ++ result.toList.flatMap Ty.references

namespace Function

variable (f : Function)

/-- The calls in the body: functions and arguments. -/
def calls : List (String × List Expr) := Stmt.collect Stmt.calls f.body

/-- What the body binds to patterns. -/
def bindings : List (String × Option Ty × Expr) := Stmt.collect Stmt.bindings f.body

/-- The objects in the body whose length is taken. -/
def measured : List Expr := Stmt.collect Stmt.measured f.body

end Function

/-- An expression can be handed over for a parameter of a type: a parameter of the caller, a text, or an
empty slice. -/
inductive Fits (scope : Parameters) : Expr → Ty → Prop
  | parameter {name : String} {type : Ty} (h : (name, type) ∈ scope) : Fits scope (.place name) type
  | text (content : String) : Fits scope (.literal content) .str
  | noItems (item : Ty) : Fits scope (.place "&[]") (.borrowed false (.slice item))

/-- A function is what a call in the scope of parameters calls. -/
structure Function.Takes (scope : Parameters) (call : String × List Expr) (f : Function) : Prop where
  name : f.name = call.1
  arguments : List.Forall₂ (Fits scope) call.2 (f.parameters.map Prod.snd)

/-- The types of modules that a part of an implementation names. -/
def ImplMember.references : ImplMember → List (String × String)
  | .type _ definition => definition.references
  | .method _ _ parameters result body =>
    signatureReferences parameters result ++ Stmt.collect Stmt.references [body]

/-- The structs that a part of an implementation makes values of. -/
def ImplMember.made : ImplMember → List String
  | .type _ _ => []
  | .method _ _ _ _ body => Stmt.collect Stmt.made [body]

namespace Item

/-- The function that a declaration is, if it is one. -/
def function? : Item → Option Function
  | .function f => some f
  | _ => none

/-- The type that a declaration declares, if it does. -/
def type? : Item → Option String
  | .record _ name _ _ | .alias _ name _ | .backend _ name _ => some name
  | .function _ | .table _ _ _ _ _ | .impl _ _ _ => none

/-- The types of modules that a declaration names. -/
def references : Item → List (String × String)
  | .function f => signatureReferences f.parameters f.result ++ Stmt.collect Stmt.references f.body
  | .backend _ _ methods =>
    methods.flatMap fun method => signatureReferences method.parameters (some method.result)
  | .table _ _ _ item rows => item.references ++ rows.flatMap fun row => row.2.collect Expr.annotated
  | .record _ _ _ fields => fields.flatMap (·.type.references)
  | .impl _ _ members => members.flatMap ImplMember.references
  | .alias _ _ _ => []

/-- The structs that a declaration makes values of. -/
def made : Item → List String
  | .function f => Stmt.collect Stmt.made f.body
  | .table _ _ _ _ rows => rows.flatMap fun row => row.2.collect Expr.made
  | .impl _ _ members => members.flatMap ImplMember.made
  | .backend _ _ _ | .record _ _ _ _ | .alias _ _ _ => []

/-- A declaration names a type of a module, or makes a value of it. -/
def Names (item : Item) (module name : String) : Prop :=
  (module, name) ∈ item.references ∨ module ++ "::" ++ name ∈ item.made

instance (item : Item) (module name : String) : Decidable (item.Names module name) :=
  inferInstanceAs (Decidable (_ ∨ _))

end Item

end RegionGateway.Rust
