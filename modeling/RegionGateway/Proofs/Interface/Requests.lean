import RegionGateway.Interface.Directive
import RegionGateway.Interface.Route
import RegionGateway.Proofs.Operations

/-!
# Accepted requests

The gateway methods of a request, file by file, and what is known of a request that is not refused:
its files generate different modules (`validate_modules`), whose names consist of ASCII letters,
digits and underscores (`isModuleChar_of_mem`) and are no keywords (`moduleName_not_keyword`).
-/

namespace RegionGateway

/-! ## Gateway methods -/

/-- Elements that stand for nothing can be filtered out first. -/
theorem flatMap_filter {α β : Type} {p : α → Bool} {f : α → List β} (as : List α)
    (h : ∀ a, p a = false → f a = []) : (as.filter p).flatMap f = as.flatMap f := by
  induction as with
  | nil => rfl
  | cons a as ih =>
      cases ha : p a with
      | true => simp [ha, ih]
      | false => simp [ha, ih, h a ha]

theorem ServiceDecl.gatewayMethods_of_none {service : ServiceDecl}
    (h : service.hasGatewayMethods = false) : service.gatewayMethods = [] := by
  simpa [gatewayMethods, hasGatewayMethods] using h

theorem FileDecl.gatewayMethods_of_none {file : FileDecl} (h : file.hasGatewayMethods = false) :
    file.gatewayMethods = [] := by
  have hservices : ∀ service ∈ file.services, service.hasGatewayMethods = false := by
    simpa [hasGatewayMethods] using h
  refine List.flatMap_eq_nil_iff.mpr fun service hservice => ?_
  rw [ServiceDecl.gatewayMethods_of_none (hservices service hservice), List.map_nil]

/-- The services of a file that have gateway methods. -/
def FileDecl.gatewayServices (file : FileDecl) : List ServiceDecl :=
  file.services.filter (·.hasGatewayMethods)

/-- The generated files that have gateway methods. -/
def Request.gatewayFiles (request : Request) : List FileDecl :=
  request.generatedFiles.filter (·.hasGatewayMethods)

/-- Files and services without gateway methods add nothing. -/
theorem Request.gatewayMethods_eq (request : Request) :
    request.gatewayMethods = request.gatewayFiles.flatMap fun file =>
      file.gatewayServices.flatMap fun service =>
        service.gatewayMethods.map fun method => (file, service, method) := by
  have hfile : ∀ file : FileDecl, (file.gatewayMethods.map fun method => (file, method)) =
      file.gatewayServices.flatMap fun service =>
        service.gatewayMethods.map fun method => (file, service, method) := by
    intro file
    rw [FileDecl.gatewayServices, flatMap_filter, FileDecl.gatewayMethods, List.map_flatMap]
    · simp only [List.map_map, Function.comp_def]
    · intro service hnone
      rw [ServiceDecl.gatewayMethods_of_none hnone, List.map_nil]
  simp only [gatewayFiles, ← hfile]
  rw [flatMap_filter, gatewayMethods]
  intro file hnone
  rw [FileDecl.gatewayMethods_of_none hnone, List.map_nil]

theorem Request.mem_gatewayMethods {request : Request} {file : FileDecl} {service : ServiceDecl}
    {method : MethodDecl} (hfile : file ∈ request.gatewayFiles) (hservice : service ∈ file.gatewayServices)
    (hmethod : method ∈ service.gatewayMethods) : (file, service, method) ∈ request.gatewayMethods := by
  rw [gatewayMethods_eq]
  exact List.mem_flatMap.mpr ⟨file, hfile, List.mem_flatMap.mpr ⟨service, hservice, List.mem_map_of_mem hmethod⟩⟩

/-- A service with gateway methods has one. -/
theorem Request.exists_gatewayMethod {request : Request} {file : FileDecl} {service : ServiceDecl}
    (hfile : file ∈ request.gatewayFiles) (hservice : service ∈ file.gatewayServices) :
    ∃ method, (file, service, method) ∈ request.gatewayMethods := by
  obtain ⟨method, hmethod, hgateway⟩ := List.any_eq_true.mp (List.mem_filter.mp hservice).2
  exact ⟨method, mem_gatewayMethods hfile hservice (List.mem_filter.mpr ⟨hmethod, hgateway⟩)⟩

/-- A generated file with gateway methods has one. -/
theorem Request.exists_gatewayMethod_of_file {request : Request} {file : FileDecl}
    (h : file ∈ request.gatewayFiles) : ∃ service method, (file, service, method) ∈ request.gatewayMethods := by
  obtain ⟨service, hservice, hmethods⟩ := List.any_eq_true.mp (List.mem_filter.mp h).2
  exact ⟨service, exists_gatewayMethod h (List.mem_filter.mpr ⟨hservice, hmethods⟩)⟩

theorem Request.gatewayMethods_ne_nil {request : Request} {file : FileDecl}
    (h : file ∈ request.gatewayFiles) : request.gatewayMethods ≠ [] := by
  obtain ⟨service, method, hmem⟩ := exists_gatewayMethod_of_file h
  exact List.ne_nil_of_mem hmem

/-! ## Distinct elements -/

namespace Route

variable {α : Type} [DecidableEq α]

theorem mem_distinct {a : α} {seen as : List α} : a ∈ distinct seen as ↔ a ∈ as ∧ a ∉ seen := by
  induction as generalizing seen with
  | nil => simp [distinct]
  | cons first as ih =>
      unfold distinct
      by_cases hseen : first ∈ seen
      · simp only [if_pos hseen, ih, List.mem_cons]
        grind
      · simp only [if_neg hseen, List.mem_cons, ih]
        grind

theorem nodup_distinct (seen as : List α) : (distinct seen as).Nodup := by
  induction as generalizing seen with
  | nil => exact List.nodup_nil
  | cons first as ih =>
      unfold distinct
      split
      · exact ih seen
      · exact List.nodup_cons.mpr ⟨fun h => (mem_distinct.mp h).2 List.mem_cons_self, ih _⟩

end Route

/-! ## Modules -/

namespace Request

/-- Files are accepted if their modules are different and none is claimed already. -/
theorem checkModules_eq_ok {claimed : List (String × String)} {files : List FileDecl} :
    checkModules claimed files = .ok () ↔
      (files.map (·.moduleName)).Nodup ∧ ∀ file ∈ files, claimed.lookup file.moduleName = none := by
  induction files generalizing claimed with
  | nil => simp [checkModules]
  | cons file files ih =>
      cases hclaimed : claimed.lookup file.moduleName with
      | some first =>
          refine iff_of_false (by simp [checkModules, hclaimed]) fun haccepted => ?_
          exact absurd (haccepted.2 file List.mem_cons_self) (by simp [hclaimed])
      | none =>
          -- a later file may use neither a module claimed before nor that of this file
          have hlookup : ∀ other : FileDecl,
              ((file.moduleName, file.name) :: claimed).lookup other.moduleName = none ↔
                other.moduleName ≠ file.moduleName ∧ claimed.lookup other.moduleName = none := by
            intro other
            by_cases hsame : other.moduleName = file.moduleName
            · simp [hsame]
            · simp [List.lookup_cons, hsame, beq_eq_false_iff_ne.mpr hsame]
          simp only [checkModules, hclaimed, ih, hlookup, List.map_cons, List.nodup_cons,
            List.mem_map, List.forall_mem_cons, true_and]
          constructor
          · rintro ⟨hnodup, hfree⟩
            refine ⟨⟨?_, hnodup⟩, fun other hother => (hfree other hother).2⟩
            rintro ⟨other, hother, hsame⟩
            exact (hfree other hother).1 hsame
          · rintro ⟨⟨hnew, hnodup⟩, hfree⟩
            exact ⟨hnodup, fun other hother =>
              ⟨fun hsame => hnew ⟨other, hother, hsame⟩, hfree other hother⟩⟩

/-- The files of an accepted request generate different modules. -/
theorem validate_modules {request : Request} {count : Nat} (h : request.validate = .ok count) :
    (request.gatewayFiles.map (·.moduleName)).Nodup := by
  unfold validate at h
  cases hmodules : checkModules [] request.gatewayFiles with
  | error error => rw [gatewayFiles] at hmodules; simp [hmodules, bind, Except.bind] at h
  | ok _ => exact (checkModules_eq_ok.mp hmodules).1

end Request

/-- A character that module names consist of. -/
def isModuleChar (c : Char) : Bool := c.isAlphanum || c == '_'

namespace FileDecl

/-- The last part of the path of a file, without the extension. -/
def stem (file : FileDecl) : String :=
  (Text.dropEnd? ".proto" (Text.lastPart '/' file.name)).getD (Text.lastPart '/' file.name)

/-- The character in the name of a module for one in the name of a file. -/
def moduleChar (c : Char) : Char := if c.isAlphanum then c else '_'

/-- The characters of the name of a file that are kept in the name of its module. -/
def moduleChars (file : FileDecl) : List Char := file.stem.toList.map moduleChar

theorem moduleName_eq (file : FileDecl) : file.moduleName =
    if String.ofList file.moduleChars ∈ Rust.keywords then String.ofList file.moduleChars ++ "_"
    else
      match file.moduleChars with
      | [] => "_"
      | c :: rest =>
        if c.isDigit then "_" ++ String.ofList (c :: rest) else String.ofList (c :: rest) := by
  unfold moduleName moduleChars stem moduleChar
  dsimp only
  generalize ((Text.dropEnd? ".proto" (Text.lastPart '/' file.name)).getD
    (Text.lastPart '/' file.name)).toList.map (fun c => if c.isAlphanum then c else '_') = name
  cases name <;> rfl

theorem isModuleChar_moduleChar (c : Char) : isModuleChar (moduleChar c) = true := by
  unfold moduleChar
  split
  · next halnum => simp [isModuleChar, halnum]
  · rfl

end FileDecl

theorem isModuleChar_of_mem {file : FileDecl} {c : Char} (h : c ∈ file.moduleName.toList) :
    isModuleChar c = true := by
  -- whatever stands around it, the name is made of replaced characters
  have hreplaced : ∀ c ∈ file.moduleChars, isModuleChar c = true := by
    simp only [FileDecl.moduleChars, List.forall_mem_map]
    exact fun c _ => FileDecl.isModuleChar_moduleChar c
  have hunderscore : ∀ c ∈ "_".toList, isModuleChar c = true := by simp [isModuleChar]
  rw [file.moduleName_eq] at h
  split at h
  · rw [String.toList_append, String.toList_ofList] at h
    exact (List.mem_append.mp h).elim (hreplaced c) (hunderscore c)
  · split at h
    · exact hunderscore c h
    · next hchars =>
        rw [hchars] at hreplaced
        split at h
        · simp only [String.toList_append, String.toList_ofList] at h
          exact (List.mem_append.mp h).elim (hunderscore c) (hreplaced c)
        · rw [String.toList_ofList] at h
          exact hreplaced c h

/-- A keyword gets an underscore, and what gets one is no keyword. -/
theorem FileDecl.moduleName_not_keyword (file : FileDecl) : file.moduleName ∉ Rust.keywords := by
  have hend : ∀ keyword ∈ Rust.keywords, keyword ++ "_" ∉ Rust.keywords := by decide +kernel
  have hstart : ∀ keyword ∈ Rust.keywords, Text.startsWith "_" keyword = false := by decide +kernel
  rw [file.moduleName_eq]
  split
  · next hkeyword => exact hend _ hkeyword
  · next hplain =>
      split
      · decide +kernel
      · next hchars =>
          split
          · intro hmem
            refine Bool.eq_false_iff.mp (hstart _ hmem) ?_
            exact List.isPrefixOf_iff_prefix.mpr
              (by rw [String.toList_append]; exact List.prefix_append _ _)
          · rw [← hchars]
            exact hplain

theorem FileDecl.moduleName_ne_mod (file : FileDecl) : file.moduleName ≠ "mod" := by
  intro hmod
  refine file.moduleName_not_keyword ?_
  rw [hmod]
  decide

end RegionGateway
