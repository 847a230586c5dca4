import RegionGateway.Interface.Request

/-!
# Authorization directives

A gateway method carries the text `resource,action,orgField`. The organization field is a dotted
path into the input, empty if the resource belongs to no organization, or the marker that turns
enforcement off. `Verb` is what a method's name says it does; verb and directive together classify a
method.
-/

namespace RegionGateway

/-- Why a request is refused before anything is generated. -/
inductive InterfaceError where
  /-- A directive does not have three components. -/
  | badDirective (raw : String) (components : Nat)
  /-- A method creates an object that uses an organization, without naming one that has to exist. -/
  | orgNotRequired (method input : String)
  /-- Two files would generate one module. -/
  | duplicateModule (module first second : String)
  deriving DecidableEq

/-- The wording of a refusal. -/
def InterfaceError.message : InterfaceError → String
  | .badDirective raw components =>
    "invalid mc2_api string \"" ++ raw ++ "\" (" ++ String.ofList (Nat.toDigits 10 components) ++
      " components), expected ResourceType,Action,OrgNameField"
  | .orgNotRequired method input =>
    "method " ++ method ++ " input " ++ input ++
      " has uses_org and is a create operation, so method must have requires_org specified"
  | .duplicateModule module first second =>
    "files " ++ first ++ " and " ++ second ++ " both generate module " ++ module

/-- An authorization directive. -/
structure Directive where
  resource : String
  action : String
  /-- The path of the organization field, as written. -/
  orgField : String
  deriving DecidableEq

namespace Directive

/-- The organization field that turns enforcement off. -/
def skipMarker : String := "skipenforce"

/-- The action of methods that only read. -/
def viewAction : String := "ActionView"

/-- The three components of a directive; they are taken as they stand. -/
def parse (raw : String) : Except InterfaceError Directive :=
  match Text.split ',' raw with
  | [resource, action, orgField] => .ok ⟨resource, action, orgField⟩
  | parts => .error (.badDirective raw parts.length)

/-- Whether enforcement is turned off. -/
def skipsEnforcement (directive : Directive) : Bool := directive.orgField == skipMarker

/-- Whether the organization field names a field. -/
def hasOrg (directive : Directive) : Bool :=
  directive.orgField != "" && !directive.skipsEnforcement

/-- Whether the method only reads. -/
def isView (directive : Directive) : Bool := directive.action == viewAction

/-- The segments of the organization field's path; none if there is no such field. -/
def orgPath (directive : Directive) : List String :=
  if directive.hasOrg then Text.split '.' directive.orgField else []

end Directive

/-- What a method does, by the first word of its name. -/
inductive Verb where
  | create
  | update
  | delete
  | view
  | other
  deriving DecidableEq

namespace Verb

/-- The first word of a name in camel case: it ends before the next ASCII capital. -/
def firstWord (name : String) : String :=
  match name.toList with
  | [] => ""
  | c :: rest => String.ofList (c :: rest.takeWhile fun d => !d.isUpper)

/-- The verb of a method name. -/
def ofName (name : String) : Verb :=
  match firstWord name with
  | "Create" => .create
  | "Update" => .update
  | "Delete" => .delete
  | "Show" => .view
  | _ => .other

/-- The place of a verb in a sequence of calls: creations first, deletions last. -/
def runOrder : Verb → Nat
  | .create => 0
  | .delete => 2
  | _ => 1

end Verb

/-- Things in the order in which their methods run; those of one place keep their order. -/
def sortByRunOrder (name : α → String) (items : List α) : List α :=
  let placed := fun place => items.filter fun item => (Verb.ofName (name item)).runOrder == place
  placed 0 ++ placed 1 ++ placed 2

/-- A gateway method with its directive and what follows from it. -/
structure ClassifiedMethod where
  method : MethodDecl
  directive : Directive
  verb : Verb
  /-- Whether the method streams a view, whose items are filtered for the caller. -/
  streamsView : Bool

/-- A method that creates an object using an organization has to name one that must exist. -/
def checkRequiredOrg (method : MethodDecl) (input : MessageDecl) : Except InterfaceError Unit :=
  if input.usedOrg?.isSome ∧ Verb.ofName method.name = .create ∧
      (method.requiresOrg.getD "") = "" then
    .error (.orgNotRequired method.name input.name)
  else .ok ()

/-- Classifies a method, given its input if that is declared. -/
def classify (method : MethodDecl) (input : Option MessageDecl) :
    Except InterfaceError ClassifiedMethod := do
  let directive ← Directive.parse (method.authorization.getD "")
  match input with
  | some input => checkRequiredOrg method input
  | none => pure ()
  let verb := Verb.ofName method.name
  return ⟨method, directive, verb,
    directive.isView && decide (verb = .view) && method.serverStreaming⟩

namespace Request

/-- Refuses two files that generate one module; `claimed` pairs modules with the files that have
them already. -/
def checkModules : List (String × String) → List FileDecl → Except InterfaceError Unit
  | _, [] => .ok ()
  | claimed, file :: files =>
    match claimed.lookup file.moduleName with
    | some first => .error (.duplicateModule file.moduleName first file.name)
    | none => checkModules ((file.moduleName, file.name) :: claimed) files

/-- Classifies every gateway method of the generated files; gives their number. -/
def validate (request : Request) : Except InterfaceError Nat := do
  checkModules [] (request.generatedFiles.filter (·.hasGatewayMethods))
  let classified ← request.gatewayMethods.mapM fun (_, _, method) =>
    classify method (request.message? method.inputType)
  return classified.length

end Request

end RegionGateway
