import Mathlib.Data.List.Nodup
import RegionGateway.Proofs.Interface.Requests

/-!
# Refused requests

A request is refused for the first file that generates a module of an earlier file, and otherwise for the
first gateway method that is faulty: its directive does not have three components, or it creates an
object using an organization without naming one that has to exist (`Refusal`, `validate_eq_error`).
-/

namespace RegionGateway

/-! ## Faulty methods -/

theorem Directive.parse_eq_ok {raw : String} {directive : Directive} (h : parse raw = .ok directive) :
    (Text.split ',' raw).length = 3 := by
  unfold parse at h
  split at h
  · next hsplit => rw [hsplit]; rfl
  · cases h

theorem Directive.parse_eq_error {raw : String} {error : InterfaceError} : parse raw = .error error ↔
    (Text.split ',' raw).length ≠ 3 ∧ error = .badDirective raw (Text.split ',' raw).length := by
  cases h : parse raw with
  | ok directive => simp [parse_eq_ok h]
  | error other =>
      unfold parse at h
      split at h
      · cases h
      · next parts hother =>
          obtain rfl := Except.error.inj h
          have hthree : (Text.split ',' raw).length ≠ 3 := by
            intro hlength
            obtain ⟨resource, action, orgField, hsplit⟩ := List.length_eq_three.mp hlength
            exact hother _ _ _ hsplit
          rw [Except.error.injEq, eq_comm]
          exact (and_iff_right hthree).symm

/-- The directive of a method as written. -/
def MethodDecl.rawDirective (method : MethodDecl) : String := method.authorization.getD ""

/-- What is wrong with a gateway method of a request. -/
inductive MethodDecl.Faulty (request : Request) (method : MethodDecl) : InterfaceError → Prop
  /-- Its directive does not have three components. -/
  | directive (components : (Text.split ',' method.rawDirective).length ≠ 3) :
      Faulty request method
        (.badDirective method.rawDirective (Text.split ',' method.rawDirective).length)
  /-- It creates an object that uses an organization, and does not say which one has to exist. -/
  | organization {input : MessageDecl}
      (components : (Text.split ',' method.rawDirective).length = 3)
      (creates : Verb.ofName method.name = .create)
      (declared : request.message? method.inputType = some input)
      (uses : input.usedOrg?.isSome)
      (missing : method.requiresOrg = none ∨ method.requiresOrg = some "") :
      Faulty request method (.orgNotRequired method.name input.name)

theorem getD_eq_empty {text : Option String} : text.getD "" = "" ↔ text = none ∨ text = some "" := by
  cases text <;> simp

theorem checkRequiredOrg_eq_error {method : MethodDecl} {input : MessageDecl} {error : InterfaceError} :
    checkRequiredOrg method input = .error error ↔
      (input.usedOrg?.isSome ∧ Verb.ofName method.name = .create ∧
        (method.requiresOrg = none ∨ method.requiresOrg = some "")) ∧
      error = .orgNotRequired method.name input.name := by
  rw [← getD_eq_empty]
  unfold checkRequiredOrg
  split
  · next hmissing => rw [Except.error.injEq, eq_comm, and_iff_right hmissing]
  · next hgiven => simp [hgiven]

/-- A method is classified unless it is faulty. -/
theorem classify_eq_error {request : Request} {method : MethodDecl} {error : InterfaceError} :
    classify method (request.message? method.inputType) = .error error ↔
      method.Faulty request error := by
  unfold classify
  cases hparse : Directive.parse (method.authorization.getD "") with
  | error other =>
      obtain ⟨hcomponents, rfl⟩ := Directive.parse_eq_error.mp hparse
      refine ⟨?_, ?_⟩
      · rintro ⟨⟩
        exact .directive hcomponents
      · rintro (_ | ⟨components, _⟩)
        · rfl
        · exact absurd components hcomponents
  | ok directive =>
      have hcomponents := Directive.parse_eq_ok hparse
      have hfaulty : method.Faulty request error ↔ ∃ input,
          request.message? method.inputType = some input ∧
            checkRequiredOrg method input = .error error := by
        simp only [checkRequiredOrg_eq_error]
        constructor
        · rintro (components | ⟨-, creates, declared, uses, missing⟩)
          · exact absurd hcomponents components
          · exact ⟨_, declared, ⟨uses, creates, missing⟩, rfl⟩
        · rintro ⟨input, declared, ⟨uses, creates, missing⟩, rfl⟩
          exact .organization hcomponents creates declared uses missing
      rw [hfaulty]
      cases request.message? method.inputType with
      | none => simp [bind, Except.bind, pure, Except.pure]
      | some input =>
          cases hcheck : checkRequiredOrg method input <;>
            simp [hcheck, bind, Except.bind, pure, Except.pure]

/-! ## Modules claimed twice -/

theorem lookup_eq_some_of_nodup {α β : Type} [DecidableEq α] {entries : List (α × β)}
    (hkeys : (entries.map Prod.fst).Nodup) {key : α} {value : β} :
    entries.lookup key = some value ↔ (key, value) ∈ entries := by
  rw [List.lookup_eq_some_iff]
  constructor
  · rintro ⟨before, rest, rfl, -⟩
    simp
  · intro hmem
    obtain ⟨before, rest, rfl⟩ := List.append_of_mem hmem
    refine ⟨before, rest, rfl, fun entry hentry => bne_iff_ne.mpr ?_⟩
    rw [List.map_append, List.map_cons, List.nodup_append] at hkeys
    exact (hkeys.2.2 _ (List.mem_map_of_mem hentry) _ List.mem_cons_self).symm

namespace Request

/-- A file with the module it generates. -/
def claimOf (file : FileDecl) : String × String := (file.moduleName, file.name)

/-- Files are refused at the first whose module is claimed, by an earlier one or before. -/
theorem checkModules_eq_error {claimed : List (String × String)} {files : List FileDecl}
    {error : InterfaceError} : checkModules claimed files = .error error ↔
      ∃ before file rest first, files = before ++ file :: rest ∧ checkModules claimed before = .ok () ∧
        ((before.map claimOf).reverse ++ claimed).lookup file.moduleName = some first ∧
        error = .duplicateModule file.moduleName first file.name := by
  induction files generalizing claimed with
  | nil => simp [checkModules]
  | cons file files ih =>
      cases hclaimed : claimed.lookup file.moduleName with
      | some first =>
          simp only [checkModules, hclaimed, Except.error.injEq]
          constructor
          · rintro rfl
            exact ⟨[], file, files, first, rfl, rfl, hclaimed, rfl⟩
          · rintro ⟨_ | ⟨other, before⟩, file', rest, first', hsplit, hbefore, hlookup, rfl⟩
            · obtain ⟨rfl, -⟩ := List.cons.inj hsplit
              rw [Option.some.inj (hclaimed.symm.trans hlookup)]
            · obtain ⟨rfl, -⟩ := List.cons.inj hsplit
              simp [checkModules, hclaimed] at hbefore
      | none =>
          have hnext : ∀ before, checkModules claimed (file :: before) =
              checkModules (claimOf file :: claimed) before := fun before => by
            simp only [checkModules, hclaimed, claimOf]
          rw [hnext, ih]
          constructor
          · rintro ⟨before, file', rest, first, rfl, hbefore, hlookup, rfl⟩
            refine ⟨file :: before, file', rest, first, rfl, (hnext before).trans hbefore, ?_, rfl⟩
            simpa using hlookup
          · rintro ⟨_ | ⟨other, before⟩, file', rest, first, hsplit, hbefore, hlookup, rfl⟩
            · obtain ⟨rfl, -⟩ := List.cons.inj hsplit
              exact absurd (hclaimed.symm.trans hlookup) (by simp)
            · obtain ⟨rfl, rfl⟩ := List.cons.inj hsplit
              refine ⟨before, file', rest, first, rfl, (hnext before).symm.trans hbefore, ?_, rfl⟩
              simpa using hlookup

/-- Why a request is refused. -/
inductive Refusal (request : Request) : InterfaceError → Prop
  /-- A generated file with gateway methods has the module of an earlier one, and no two before it have
  the same. -/
  | module {before : List FileDecl} {file first : FileDecl} {rest : List FileDecl}
      (split : request.gatewayFiles = before ++ file :: rest)
      (distinct : (before.map (·.moduleName)).Nodup)
      (earlier : first ∈ before) (same : first.moduleName = file.moduleName) :
      Refusal request (.duplicateModule file.moduleName first.name file.name)
  /-- All modules are different, and a gateway method is faulty; those before it are not. -/
  | method {before : List (FileDecl × ServiceDecl × MethodDecl)}
      {declared : FileDecl × ServiceDecl × MethodDecl}
      {rest : List (FileDecl × ServiceDecl × MethodDecl)} {error : InterfaceError}
      (modules : (request.gatewayFiles.map (·.moduleName)).Nodup)
      (split : request.gatewayMethods = before ++ declared :: rest)
      (sound : ∀ earlier ∈ before, ∀ other, ¬ earlier.2.2.Faulty request other)
      (faulty : declared.2.2.Faulty request error) :
      Refusal request error

theorem checkModules_nil_eq_error {files : List FileDecl} {error : InterfaceError} :
    checkModules [] files = .error error ↔ ∃ before file rest first, files = before ++ file :: rest ∧
      (before.map (·.moduleName)).Nodup ∧ first ∈ before ∧ first.moduleName = file.moduleName ∧
      error = .duplicateModule file.moduleName first.name file.name := by
  have hclaims : ∀ {before : List FileDecl}, (before.map (·.moduleName)).Nodup → ∀ {module name},
      ((before.map claimOf).reverse ++ []).lookup module = some name ↔
        ∃ first ∈ before, first.moduleName = module ∧ first.name = name := by
    intro before hnodup module name
    rw [List.append_nil, lookup_eq_some_of_nodup]
    · simp [claimOf]
    · simpa only [List.map_reverse, List.nodup_reverse, List.map_map, Function.comp_def, claimOf]
        using hnodup
  rw [checkModules_eq_error]
  constructor
  · rintro ⟨before, file, rest, name, hsplit, hbefore, hlookup, rfl⟩
    have hnodup := (checkModules_eq_ok.mp hbefore).1
    obtain ⟨first, hfirst, hmodule, rfl⟩ := (hclaims hnodup).mp hlookup
    exact ⟨before, file, rest, first, hsplit, hnodup, hfirst, hmodule, rfl⟩
  · rintro ⟨before, file, rest, first, hsplit, hnodup, hfirst, hmodule, rfl⟩
    refine ⟨before, file, rest, first.name, hsplit, ?_, ?_, rfl⟩
    · exact checkModules_eq_ok.mpr ⟨hnodup, fun _ _ => rfl⟩
    · exact (hclaims hnodup).mpr ⟨first, hfirst, hmodule, rfl⟩

/-- What the checks of a request fail with: those of its modules come first. -/
theorem faultOf_validate (request : Request) : faultOf request.validate =
    (faultOf (checkModules [] request.gatewayFiles)).or
      (request.gatewayMethods.findSome? fun declared =>
        faultOf (classify declared.2.2 (request.message? declared.2.2.inputType))) := by
  rw [← faultOf_mapM]
  unfold validate gatewayFiles
  cases checkModules [] (request.generatedFiles.filter (·.hasGatewayMethods)) with
  | error error => rfl
  | ok _ =>
      cases request.gatewayMethods.mapM fun declared =>
        classify declared.2.2 (request.message? declared.2.2.inputType) <;> rfl

theorem validate_eq_error {request : Request} {error : InterfaceError} :
    request.validate = .error error ↔ request.Refusal error := by
  rw [← faultOf_eq_some, faultOf_validate, Option.or_eq_some_iff, faultOf_eq_some, faultOf_eq_none,
    checkModules_nil_eq_error, List.findSome?_eq_some_iff]
  simp only [faultOf_eq_some, classify_eq_error]
  have hsound : ∀ {method : MethodDecl},
      faultOf (classify method (request.message? method.inputType)) = none ↔
        ∀ other, ¬ method.Faulty request other := by
    intro method
    simp only [Option.eq_none_iff_forall_ne_some, ne_eq, faultOf_eq_some, classify_eq_error]
  simp only [hsound]
  constructor
  · rintro (⟨before, file, rest, first, hsplit, hnodup, hfirst, hsame, rfl⟩ |
      ⟨⟨_, hmodules⟩, before, declared, rest, hsplit, hfaulty, hbefore⟩)
    · exact .module hsplit hnodup hfirst hsame
    · exact .method (checkModules_eq_ok.mp hmodules).1 hsplit hbefore hfaulty
  · rintro (⟨hsplit, hnodup, hfirst, hsame⟩ | ⟨hmodules, hsplit, hbefore, hfaulty⟩)
    · exact .inl ⟨_, _, _, _, hsplit, hnodup, hfirst, hsame, rfl⟩
    · exact .inr ⟨⟨(), checkModules_eq_ok.mpr ⟨hmodules, fun _ _ => rfl⟩⟩, _, _, _, hsplit, hfaulty,
        hbefore⟩

end Request

end RegionGateway
