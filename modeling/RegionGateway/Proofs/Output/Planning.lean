import RegionGateway.Output.Generation
import RegionGateway.Proofs.Interface.Requests

/-!
# What is planned

A run that is not refused plans every gateway method of its files, in order (`plan_eq_ok`): each plan
is that of a declared method (`MethodPlan.IsOf`), and the wrappers of the input types are claimed one
after the other (`Claims`). So the first method with an input type claims its wrapper
(`Claims.declaresWrapper_iff`), and the module of that method is what the others are told
(`Claims.owner?_eq`).
-/

namespace RegionGateway

/-- What is related to the elements of a list is found in the related list. -/
theorem exists_of_forall₂ {α β : Type} {related : α → β → Prop} {as : List α} {bs : List β}
    (h : List.Forall₂ related as bs) {a : α} (ha : a ∈ as) : ∃ b ∈ bs, related a b := by
  induction h with
  | nil => cases ha
  | cons hfirst _ ih =>
      rcases List.mem_cons.mp ha with rfl | ha
      · exact ⟨_, List.mem_cons_self, hfirst⟩
      · obtain ⟨b, hb, hrelated⟩ := ih ha
        exact ⟨b, List.mem_cons_of_mem _ hb, hrelated⟩

theorem map_eq_map_of_forall₂ {α β γ : Type} {f : α → γ} {g : β → γ} {as : List α} {bs : List β}
    (h : List.Forall₂ (fun a b => f a = g b) as bs) : as.map f = bs.map g := by
  rw [← List.forall₂_eq_eq_eq, List.forall₂_map_left_iff, List.forall₂_map_right_iff]
  exact h

/-! ## Plans of what is declared -/

/-- The plan is that of a method of a service. -/
structure MethodPlan.IsOf (service : String) (declared : MethodDecl) (plan : MethodPlan) : Prop where
  service : plan.service = service
  method : plan.method = declared.name
  functionName : plan.functionName = Rust.ident declared.name
  inputType : plan.inputType = declared.inputType
  outputType : plan.outputType = declared.outputType
  streams : plan.streams = declared.serverStreaming

/-- The plan is that of a service: its gateway methods are planned, in order. -/
structure ServicePlan.IsOf (service : ServiceDecl) (plan : ServicePlan) : Prop where
  name : plan.name = service.name
  methods : List.Forall₂ (MethodPlan.IsOf service.name) service.gatewayMethods plan.methods

/-- The plan is that of a file: its services with gateway methods are planned, in order. -/
structure FilePlan.IsOf (file : FileDecl) (plan : FilePlan) : Prop where
  module : plan.module = file.moduleName
  source : plan.source = file.name
  services : List.Forall₂ ServicePlan.IsOf file.gatewayServices plan.services

/-- The plans of the methods of a file, in order, with its module. -/
def FilePlan.methods (plan : FilePlan) : List (String × MethodPlan) :=
  plan.services.flatMap fun service => service.methods.map fun method => (plan.module, method)

theorem FilePlan.mem_methods {plan : FilePlan} {module : String} {method : MethodPlan} :
    (module, method) ∈ plan.methods ↔
      plan.module = module ∧ ∃ service ∈ plan.services, method ∈ service.methods := by
  simp only [methods, List.mem_flatMap, List.mem_map, Prod.mk.injEq]
  constructor
  · rintro ⟨service, hservice, _, hmethod, hmodule, rfl⟩
    exact ⟨hmodule, service, hservice, hmethod⟩
  · rintro ⟨hmodule, service, hservice, hmethod⟩
    exact ⟨service, hservice, method, hmethod, hmodule, rfl⟩

/-- The plans of all methods, in file, service and method order, with the modules of their files. -/
def FilePlan.walk (plans : List FilePlan) : List (String × MethodPlan) :=
  plans.flatMap FilePlan.methods

theorem classify_eq_ok {method : MethodDecl} {input : Option MessageDecl}
    {classified : ClassifiedMethod} (h : classify method input = .ok classified) :
    classified.method = method := by
  unfold classify at h
  cases hdirective : Directive.parse (method.authorization.getD "") with
  | error error => simp [hdirective, bind, Except.bind] at h
  | ok directive =>
      cases input with
      | none =>
          simp only [hdirective, bind, Except.bind, pure, Except.pure, Except.ok.injEq] at h
          rw [← h]
      | some input =>
          cases horg : checkRequiredOrg method input with
          | error error => simp [hdirective, horg, bind, Except.bind] at h
          | ok _ =>
              simp only [hdirective, horg, bind, Except.bind, pure, Except.pure, Except.ok.injEq] at h
              rw [← h]

theorem MethodPlan.ofMethod_eq_ok {request : Request} {service : String}
    {classified : ClassifiedMethod} {first : Bool} {plan : MethodPlan}
    (h : ofMethod request service classified first = .ok plan) :
    plan.IsOf service classified.method ∧ plan.declaresWrapper = first ∧
      plan.wrapperModule = none := by
  unfold ofMethod at h
  dsimp only at h
  split at h
  · cases h
  · obtain rfl := Except.ok.inj h
    refine ⟨?_, rfl, rfl⟩
    constructor <;> dsimp only

theorem mapError_eq_ok {ε ε' α : Type} {f : ε → ε'} {result : Except ε α} {a : α}
    (h : result.mapError f = .ok a) : result = .ok a := by
  cases result with
  | error error => cases h
  | ok a' => cases h; rfl

/-! ## Claims -/

namespace WrapperOwners

@[simp] theorem owner?_empty (type : String) : empty.owner? type = none := rfl

/-- The first claim of a type stays. -/
theorem owner?_claim (owners : WrapperOwners) (type module other : String) :
    (owners.claim type module).2.owner? other =
      (owners.owner? other).or (if type = other then some module else none) := by
  cases hclaimed : owners.owner? type with
  | some first =>
      have hsame : claim type module owners = (false, owners) := by
        simp [claim, contains, hclaimed]
      rw [hsame]
      split
      · next htype => rw [← htype, hclaimed]; rfl
      · exact Option.or_none.symm
  | none =>
      have hnew : claim type module owners = (true, ⟨(type, module) :: owners.entries⟩) := by
        simp [claim, contains, hclaimed]
      rw [hnew, owner?, List.lookup_cons]
      split
      · next htype =>
          obtain rfl : other = type := eq_of_beq htype
          rw [hclaimed, if_pos rfl]
          rfl
      · next htype =>
          rw [if_neg fun h => beq_eq_false_iff_ne.mp htype h.symm, Option.or_none]
          rfl

theorem claim_fst (owners : WrapperOwners) (type module : String) :
    (owners.claim type module).1 = (owners.owner? type).isNone := by
  unfold claim contains
  cases owners.owner? type <;> rfl

end WrapperOwners

/-- The wrappers of planned methods are claimed one after the other: the first to claim one declares
it, and the others are told the module that does, unless it is their own. -/
inductive Claims : WrapperOwners → List (String × MethodPlan) → WrapperOwners → Prop
  | nil (owners) : Claims owners [] owners
  | cons {owners after module plan walk}
      (first : plan.declaresWrapper = (owners.claim plan.inputType module).1)
      (told : plan.wrapperModule = (owners.owner? plan.inputType).filter (· != module))
      (rest : Claims (owners.claim plan.inputType module).2 walk after) :
      Claims owners ((module, plan) :: walk) after

/-- The module of the first method among these that takes an input type. -/
def firstTaker? (walk : List (String × MethodPlan)) (type : String) : Option String :=
  (walk.find? fun taker => taker.2.inputType == type).map (·.1)

namespace Claims

variable {owners between after : WrapperOwners} {before walk : List (String × MethodPlan)}
  {module : String} {plan : MethodPlan}

theorem append (h : Claims owners before between) (h' : Claims between walk after) :
    Claims owners (before ++ walk) after := by
  induction h with
  | nil => exact h'
  | cons first told _ ih => exact .cons first told (ih h')

theorem traced : Attempt.Traced Claims := ⟨.nil, .append⟩

theorem split (h : Claims owners (before ++ walk) after) :
    ∃ between, Claims owners before between ∧ Claims between walk after := by
  induction before generalizing owners with
  | nil => exact ⟨owners, .nil owners, h⟩
  | cons first before ih =>
      cases h with
      | cons hfirst told rest =>
          obtain ⟨between, hbefore, hwalk⟩ := ih rest
          exact ⟨between, .cons hfirst told hbefore, hwalk⟩

/-- A type that was not claimed before belongs to the first method that takes it. -/
theorem owner?_eq (h : Claims owners walk after) (type : String) :
    after.owner? type = (owners.owner? type).or (firstTaker? walk type) := by
  induction h with
  | nil => exact Option.or_none.symm
  | @cons owners after module plan walk _ _ _ ih =>
      rw [ih, WrapperOwners.owner?_claim, Option.or_assoc]
      by_cases htype : plan.inputType = type
      · simp [firstTaker?, htype]
      · simp [firstTaker?, htype]

/-- A method declares the wrapper of its input if no method before it takes the same. -/
theorem declaresWrapper_iff (h : Claims .empty (before ++ (module, plan) :: walk) after) :
    plan.declaresWrapper = true ↔ ∀ earlier ∈ before, earlier.2.inputType ≠ plan.inputType := by
  obtain ⟨between, hbefore, hwalk⟩ := h.split
  cases hwalk with
  | cons first _ _ =>
      rw [first, WrapperOwners.claim_fst, hbefore.owner?_eq]
      simp [firstTaker?]

/-- A method is told the module of the first method that takes its input, unless it is its own. -/
theorem wrapperModule_eq (h : Claims .empty walk after) (hmem : (module, plan) ∈ walk) :
    ∃ owner, firstTaker? walk plan.inputType = some owner ∧
      plan.wrapperModule = (if owner = module then none else some owner) ∧
      (plan.declaresWrapper = true → owner = module) := by
  obtain ⟨before, rest, rfl⟩ := List.append_of_mem hmem
  obtain ⟨between, hbefore, hwalk⟩ := h.split
  cases hwalk with
  | cons first told _ =>
      rw [WrapperOwners.claim_fst] at first
      rw [hbefore.owner?_eq, WrapperOwners.owner?_empty, Option.none_or] at first told
      refine ⟨(firstTaker? before plan.inputType).getD module, ?_, ?_, ?_⟩
      · unfold firstTaker?
        rw [List.find?_append]
        cases before.find? fun taker => taker.2.inputType == plan.inputType <;> simp
      · rw [told]
        cases firstTaker? before plan.inputType with
        | none => simp
        | some owner => by_cases hown : owner = module <;> simp [Option.filter, hown]
      · intro hdeclares
        rw [Option.isNone_iff_eq_none.mp (first.symm.trans hdeclares), Option.getD_none]

/-- What is true of the modules that claimed wrappers before, and of those of the methods, is true of every module
that a method is told. -/
theorem forall_told {p : String → Prop} (h : Claims owners walk after) (howners : ∀ entry ∈ owners.entries, p entry.2)
    (hwalk : ∀ planned ∈ walk, p planned.1) : ∀ planned ∈ walk, ∀ owner ∈ planned.2.wrapperModule, p owner := by
  induction h with
  | nil => exact List.forall_mem_nil _
  | @cons owners after module plan walk _ told _ ih =>
      obtain ⟨hmodule, hwalk⟩ := List.forall_mem_cons.mp hwalk
      refine List.forall_mem_cons.mpr ⟨fun owner howner => ?_, ih ?_ hwalk⟩
      · rw [told] at howner
        obtain ⟨before, rest, hentries, -⟩ := List.lookup_eq_some_iff.mp (Option.mem_filter_iff.mp howner).1
        exact howners (plan.inputType, owner) (hentries ▸ List.mem_append_right _ List.mem_cons_self)
      · unfold WrapperOwners.claim
        split
        · exact howners
        · exact List.forall_mem_cons.mpr ⟨hmodule, howners⟩

/-- The first method that takes an input type declares its wrapper. -/
theorem declares_firstTaker (h : Claims .empty walk after) {type owner : String}
    (hfirst : firstTaker? walk type = some owner) :
    ∃ plan, (owner, plan) ∈ walk ∧ plan.inputType = type ∧ plan.declaresWrapper = true := by
  obtain ⟨⟨module, plan⟩, hfind, rfl⟩ := Option.map_eq_some_iff.mp hfirst
  obtain ⟨htype, before, rest, rfl, hbefore⟩ := List.find?_eq_some_iff_append.mp hfind
  have htype : plan.inputType = type := eq_of_beq htype
  refine ⟨plan, by simp, htype, h.declaresWrapper_iff.mpr fun earlier hearlier => ?_⟩
  simpa [htype] using hbefore earlier hearlier

/-- The wrappers declared are those of the types not claimed before, each at its first use. -/
theorem declared_eq (h : Claims owners walk after) {seen : List String}
    (hseen : ∀ type, type ∈ seen ↔ owners.owner? type ≠ none) :
    (walk.filter (·.2.declaresWrapper)).map (·.2.inputType) =
      Route.distinct seen (walk.map (·.2.inputType)) := by
  induction h generalizing seen with
  | nil => rfl
  | @cons owners after module plan walk first _ _ ih =>
      rw [WrapperOwners.claim_fst] at first
      have hclaimed : plan.inputType ∈ seen ↔ plan.declaresWrapper = false := by
        rw [hseen, first, Option.isNone_eq_false_iff, Option.isSome_iff_ne_none]
      rw [List.map_cons, Route.distinct]
      split
      · next hmem =>
          rw [List.filter_cons_of_neg (by simp [hclaimed.mp hmem])]
          refine ih fun type => ?_
          rw [hseen, WrapperOwners.owner?_claim]
          grind
      · next hnew =>
          rw [List.filter_cons_of_pos (by simpa [hclaimed] using hnew), List.map_cons]
          refine congrArg _ (ih fun type => ?_)
          rw [List.mem_cons, hseen, WrapperOwners.owner?_claim]
          grind

end Claims

/-! ## Plans of a run -/

namespace Generation

variable {request : Request} {owners after : WrapperOwners}

/-- A method that is planned has been classified, and has claimed its wrapper; it is told the module
that claimed the wrapper before, unless that is its own. -/
theorem planMethod_cases {module service : String} {method : MethodDecl} {plan : MethodPlan}
    (h : planMethod request module service method owners = (.ok plan, after)) :
    ∃ classified made, classify method (request.message? method.inputType) = .ok classified ∧
      MethodPlan.ofMethod request service classified (owners.claim method.inputType module).1 =
        .ok made ∧
      after = (owners.claim method.inputType module).2 ∧
      plan = { made with
        wrapperModule := (owners.owner? method.inputType).filter (· != module) } := by
  unfold planMethod at h
  obtain ⟨classified, _, hclassified, h⟩ := Attempt.bind_eq_ok h
  obtain ⟨hclassify, rfl⟩ := Attempt.ofExcept_eq_ok hclassified
  obtain ⟨first, between, hclaim, h⟩ := Attempt.bind_eq_ok h
  obtain ⟨hfirst, rfl⟩ : (owners.claim method.inputType module).1 = first ∧
      (owners.claim method.inputType module).2 = between := by
    obtain ⟨hresult, hstate⟩ := Prod.mk.inj hclaim
    exact ⟨Except.ok.inj hresult, hstate⟩
  obtain ⟨made, _, hmade, h⟩ := Attempt.bind_eq_ok h
  obtain ⟨hmake, rfl⟩ := Attempt.ofExcept_eq_ok hmade
  have hmake := mapError_eq_ok hmake
  refine ⟨classified, made, mapError_eq_ok hclassify, hfirst ▸ hmake, ?_⟩
  rw [WrapperOwners.claim_fst] at hfirst
  split at h
  · next hnew =>
      -- the type was not claimed before, so there is nobody to be told of
      obtain ⟨hplan, hafter⟩ := Prod.mk.inj h
      obtain rfl := Except.ok.inj hplan
      have hnone := Option.isNone_iff_eq_none.mp (hfirst.trans hnew)
      refine ⟨hafter.symm, ?_⟩
      rw [hnone, Option.filter_none, ← (MethodPlan.ofMethod_eq_ok hmake).2.2]
  · next hknown =>
      -- the type was claimed before, so this claim has changed nothing
      obtain ⟨hplan, hafter⟩ := Prod.mk.inj h
      refine ⟨hafter.symm, ?_⟩
      rw [← Except.ok.inj hplan, WrapperOwners.owner?_claim]
      cases howner : owners.owner? method.inputType with
      | none => rw [howner] at hfirst; exact absurd hfirst.symm hknown
      | some owner => rw [Option.some_or]

theorem planMethod_eq_ok {module service : String} {method : MethodDecl} {plan : MethodPlan}
    (h : planMethod request module service method owners = (.ok plan, after)) :
    Claims owners [(module, plan)] after ∧ plan.IsOf service method := by
  obtain ⟨classified, made, hclassify, hmake, rfl, rfl⟩ := planMethod_cases h
  obtain ⟨hof, hdeclares, -⟩ := MethodPlan.ofMethod_eq_ok hmake
  rw [classify_eq_ok hclassify] at hof
  refine ⟨.cons ?_ ?_ ?_, ⟨hof.service, hof.method, hof.functionName, hof.inputType,
    hof.outputType, hof.streams⟩⟩
  · simpa only [hof.inputType] using hdeclares
  · simp only [hof.inputType]
  · simp only [hof.inputType]
    exact .nil _

theorem planService_eq_ok {module : String} {service : ServiceDecl} {plan : ServicePlan}
    (h : planService request module service owners = (.ok plan, after)) :
    Claims owners (plan.methods.map fun method => (module, method)) after ∧ plan.IsOf service := by
  obtain ⟨methods, _, hmethods, h⟩ := Attempt.bind_eq_ok h
  obtain ⟨hplan, rfl⟩ := Prod.mk.inj h
  obtain rfl := Except.ok.inj hplan
  obtain ⟨hclaims, hof⟩ := Attempt.mapM_eq_ok Claims.traced (fun method => [(module, method)])
    (MethodPlan.IsOf service.name) (fun _ _ _ _ _ => planMethod_eq_ok) hmethods
  rw [← List.map_eq_flatMap] at hclaims
  exact ⟨hclaims, rfl, hof⟩

theorem planFile_eq_ok {file : FileDecl} {plan : FilePlan}
    (h : planFile request file owners = (.ok plan, after)) :
    Claims owners plan.methods after ∧ plan.IsOf file := by
  obtain ⟨services, _, hservices, h⟩ := Attempt.bind_eq_ok h
  obtain ⟨hplan, rfl⟩ := Prod.mk.inj h
  obtain rfl := Except.ok.inj hplan
  obtain ⟨hclaims, hof⟩ := Attempt.mapM_eq_ok Claims.traced
    (fun service => service.methods.map fun method => (file.moduleName, method))
    ServicePlan.IsOf (fun _ _ _ _ _ => planService_eq_ok) hservices
  refine ⟨?_, ?_, ?_, hof⟩
  · simpa only [FilePlan.methods] using hclaims
  · dsimp only
  · dsimp only

/-- What a run that is not refused plans. -/
structure Planned (request : Request) (owners : WrapperOwners) (plans : List FilePlan)
    (after : WrapperOwners) : Prop where
  /-- Different files have different modules. -/
  modules : (request.gatewayFiles.map (·.moduleName)).Nodup
  /-- Every file with gateway methods is planned, in order. -/
  files : List.Forall₂ FilePlan.IsOf request.gatewayFiles plans
  /-- The wrappers are claimed in file, service and method order. -/
  claims : Claims owners (FilePlan.walk plans) after

theorem plan_eq_ok {run : Generation} {plans : List FilePlan}
    (h : run.plan owners = (.ok plans, after)) : Planned run.request owners plans after := by
  obtain ⟨count, _, hvalid, h⟩ := Attempt.bind_eq_ok h
  obtain ⟨hvalidate, rfl⟩ := Attempt.ofExcept_eq_ok hvalid
  have hfiles : run.request.gatewayFiles.mapM (planFile run.request) owners = (.ok plans, after) := h
  obtain ⟨hclaims, hof⟩ := Attempt.mapM_eq_ok Claims.traced FilePlan.methods FilePlan.IsOf
    (fun _ _ _ _ _ => planFile_eq_ok) hfiles
  exact ⟨Request.validate_modules (mapError_eq_ok hvalidate), hof, hclaims⟩

namespace Planned

variable {plans : List FilePlan} (h : Planned request owners plans after)
include h

/-- The modules planned are different. -/
theorem nodup_modules : (plans.map (·.module)).Nodup := by
  have hmodules : request.gatewayFiles.map (·.moduleName) = plans.map (·.module) :=
    map_eq_map_of_forall₂ (h.files.imp fun _ _ hof => hof.module.symm)
  exact hmodules ▸ h.modules

/-- The plans are those of the gateway methods of the request, in order. -/
theorem walk_isOf : List.Forall₂
    (fun declared planned => planned.1 = declared.1.moduleName ∧
      planned.2.IsOf declared.2.1.name declared.2.2)
    request.gatewayMethods (FilePlan.walk plans) := by
  rw [Request.gatewayMethods_eq]
  refine List.rel_flatMap h.files fun file plan hfile => ?_
  refine List.rel_flatMap hfile.services fun service plan' hservice => ?_
  rw [List.forall₂_map_left_iff, List.forall₂_map_right_iff]
  exact hservice.methods.imp fun _ _ hmethod => ⟨hfile.module, hmethod⟩

/-- Every planned method is declared, in the service of its plan. -/
theorem exists_declared {plan : FilePlan} (hplan : plan ∈ plans) {service : ServicePlan}
    (hservice : service ∈ plan.services) {method : MethodPlan} (hmethod : method ∈ service.methods) :
    ∃ declared ∈ request.gatewayMethods, service.name = declared.2.1.name ∧
      method.IsOf declared.2.1.name declared.2.2 := by
  obtain ⟨file, hfile, hfileOf⟩ := exists_of_forall₂ h.files.flip hplan
  obtain ⟨declared, hdeclared, hserviceOf⟩ := exists_of_forall₂ hfileOf.services.flip hservice
  obtain ⟨decl, hdecl, hof⟩ := exists_of_forall₂ hserviceOf.methods.flip hmethod
  exact ⟨(file, declared, decl), Request.mem_gatewayMethods hfile hdeclared hdecl, hserviceOf.name, hof⟩

end Planned

/-- The plan is made for a method, with the wrappers that were claimed by then. -/
def Made (request : Request) (module : String) (plan : MethodPlan) : Prop :=
  ∃ service method start last, planMethod request module service method start = (.ok plan, last)

/-- What is said of every plan need not say which wrappers are claimed in between. -/
theorem untraced : Attempt.Traced fun (_ : WrapperOwners) (_ : List Unit) (_ : WrapperOwners) => True :=
  ⟨fun _ => trivial, fun _ _ => trivial⟩

/-- The plans of a service are made for its gateway methods. -/
theorem exists_of_planService {module : String} {service : ServiceDecl} {planned : ServicePlan}
    (h : planService request module service owners = (.ok planned, after)) {plan : MethodPlan}
    (hplan : plan ∈ planned.methods) :
    ∃ declared ∈ service.gatewayMethods, ∃ start last,
      planMethod request module service.name declared start = (.ok plan, last) := by
  obtain ⟨methods, _, hmethods, h⟩ := Attempt.bind_eq_ok h
  obtain rfl := Except.ok.inj (Prod.mk.inj h).1
  have hmade := (Attempt.mapM_eq_ok untraced (fun _ => [])
    (fun declared plan => ∃ start last,
      planMethod request module service.name declared start = (.ok plan, last))
    (fun _ _ start _ last hmethod => ⟨trivial, start, last, hmethod⟩) hmethods).2
  exact exists_of_forall₂ hmade.flip hplan

theorem made_of_planService {module : String} {service : ServiceDecl} {plan : ServicePlan}
    (h : planService request module service owners = (.ok plan, after)) :
    ∀ method ∈ plan.methods, Made request module method := by
  intro method hmethod
  obtain ⟨declared, -, start, last, hplanned⟩ := exists_of_planService h hmethod
  exact ⟨service.name, declared, start, last, hplanned⟩

/-- The plans of a file are made for the gateway methods of its services. -/
theorem exists_of_planFile {file : FileDecl} {plan : FilePlan}
    (h : planFile request file owners = (.ok plan, after)) {planned : String × MethodPlan}
    (hplanned : planned ∈ plan.methods) :
    planned.1 = file.moduleName ∧ ∃ service ∈ file.gatewayServices, ∃ declared ∈ service.gatewayMethods,
      ∃ start last, planMethod request file.moduleName service.name declared start = (.ok planned.2, last) := by
  obtain ⟨services, _, hservices, h⟩ := Attempt.bind_eq_ok h
  obtain ⟨hplan, rfl⟩ := Prod.mk.inj h
  obtain rfl := Except.ok.inj hplan
  have hmade := (Attempt.mapM_eq_ok untraced (fun _ => [])
    (fun service (plan : ServicePlan) => ∀ method ∈ plan.methods, ∃ declared ∈ service.gatewayMethods,
      ∃ start last, planMethod request file.moduleName service.name declared start = (.ok method, last))
    (fun _ _ _ _ _ hservice => ⟨trivial, fun _ hmethod => exists_of_planService hservice hmethod⟩) hservices).2
  simp only [FilePlan.methods] at hplanned
  obtain ⟨plan, hplan, hplanned⟩ := List.mem_flatMap.mp hplanned
  obtain ⟨method, hmethod, rfl⟩ := List.mem_map.mp hplanned
  obtain ⟨service, hservice, hmethods⟩ := exists_of_forall₂ hmade.flip hplan
  dsimp only
  exact ⟨rfl, service, hservice, hmethods method hmethod⟩

/-- The plans of a run are made for the gateway methods of its request. -/
theorem exists_of_plan {run : Generation} {plans : List FilePlan} (h : run.plan owners = (.ok plans, after))
    {planned : String × MethodPlan} (hplanned : planned ∈ FilePlan.walk plans) :
    ∃ declared ∈ run.request.gatewayMethods, planned.1 = declared.1.moduleName ∧ ∃ start last,
      planMethod run.request declared.1.moduleName declared.2.1.name declared.2.2 start =
        (.ok planned.2, last) := by
  obtain ⟨count, _, hvalid, h⟩ := Attempt.bind_eq_ok h
  obtain ⟨-, rfl⟩ := Attempt.ofExcept_eq_ok hvalid
  have hfiles : run.request.gatewayFiles.mapM (planFile run.request) owners = (.ok plans, after) := h
  have hmade := (Attempt.mapM_eq_ok untraced (fun _ => [])
    (fun file (plan : FilePlan) => ∀ planned ∈ plan.methods, planned.1 = file.moduleName ∧
      ∃ service ∈ file.gatewayServices, ∃ declared ∈ service.gatewayMethods, ∃ start last,
        planMethod run.request file.moduleName service.name declared start = (.ok planned.2, last))
    (fun _ _ _ _ _ hfile => ⟨trivial, fun _ hmethod => exists_of_planFile hfile hmethod⟩) hfiles).2
  obtain ⟨plan, hplan, hmethod⟩ := List.mem_flatMap.mp hplanned
  obtain ⟨file, hfile, hmethods⟩ := exists_of_forall₂ hmade.flip hplan
  obtain ⟨hmodule, service, hservice, declared, hdeclared, hplanned⟩ := hmethods planned hmethod
  exact ⟨(file, service, declared), Request.mem_gatewayMethods hfile hservice hdeclared, hmodule, hplanned⟩

theorem made_of_plan {run : Generation} {plans : List FilePlan}
    (h : run.plan owners = (.ok plans, after)) :
    ∀ planned ∈ FilePlan.walk plans, Made run.request planned.1 planned.2 := by
  intro planned hplanned
  obtain ⟨declared, -, hmodule, start, last, hmade⟩ := exists_of_plan h hplanned
  exact ⟨declared.2.1.name, declared.2.2, start, last, hmodule ▸ hmade⟩

theorem files_eq_ok {run : Generation} {files : List SourceFile}
    (h : run.files owners = (.ok files, after)) :
    ∃ plans, run.plan owners = (.ok plans, after) ∧ files = run.filesOf plans :=
  Attempt.map_eq_ok h

end Generation

end RegionGateway
