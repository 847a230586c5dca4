import RegionGateway.Proofs.Interface.Refusals
import RegionGateway.Proofs.Output.Planning
import RegionGateway.Proofs.Text.Parts

/-!
# Directives in plans

A directive is made of the parts of the text it is read from (`parse_eq_ok_iff`). What a plan says about the
enforcer is what the directive of its method says (`MethodPlan.follows_of_ofMethod`).
-/

namespace RegionGateway

theorem Directive.parse_eq_ok_iff {raw : String} {directive : Directive} : parse raw = .ok directive ↔
    Text.split ',' raw = [directive.resource, directive.action, directive.orgField] := by
  unfold parse
  split
  · next resource action orgField hsplit =>
      rw [hsplit]
      cases directive
      simp
  · next hother =>
      constructor
      · intro h
        cases h
      · intro h
        exact absurd h (hother _ _ _)

/-- The components of a directive, joined by commas, are what it is read from. -/
theorem Directive.join_of_parse {raw : String} {directive : Directive} (h : parse raw = .ok directive) :
    Text.join "," [directive.resource, directive.action, directive.orgField] = raw := by
  rw [← parse_eq_ok_iff.mp h]
  exact @Text.join_split ',' raw

theorem Directive.skipsEnforcement_iff {directive : Directive} :
    directive.skipsEnforcement = true ↔ directive.orgField = skipMarker := by
  rw [skipsEnforcement, beq_iff_eq]

theorem Directive.hasOrg_iff {directive : Directive} :
    directive.hasOrg = true ↔ directive.orgField ≠ "" ∧ directive.orgField ≠ skipMarker := by
  rw [hasOrg, Bool.and_eq_true, bne_iff_ne, Bool.not_eq_true', ← Bool.not_eq_true, skipsEnforcement_iff]

/-- What a method is classified as. -/
structure ClassifiedMethod.IsOf (declared : MethodDecl) (classified : ClassifiedMethod) : Prop where
  method : classified.method = declared
  directive : Directive.parse declared.rawDirective = .ok classified.directive
  streamsView : classified.streamsView = (classified.directive.isView &&
    decide (Verb.ofName declared.name = .view) && declared.serverStreaming)

theorem ClassifiedMethod.isOf_of_classify {method : MethodDecl} {input : Option MessageDecl}
    {classified : ClassifiedMethod} (h : classify method input = .ok classified) :
    classified.IsOf method := by
  -- the check of the required organization decides only whether there is a result
  have hchecked : ∀ check : Except InterfaceError Unit,
      ((Directive.parse method.rawDirective).bind fun directive => check.bind fun _ =>
        .ok ⟨method, directive, Verb.ofName method.name, directive.isView &&
          decide (Verb.ofName method.name = .view) && method.serverStreaming⟩) = .ok classified →
      classified.IsOf method := by
    intro check hcheck
    cases hdirective : Directive.parse method.rawDirective with
    | error error => rw [hdirective] at hcheck; cases hcheck
    | ok directive =>
        rw [hdirective] at hcheck
        cases check with
        | error error => cases hcheck
        | ok _ =>
            cases hcheck
            exact ⟨rfl, hdirective, rfl⟩
  cases input with
  | none => exact hchecked (pure ()) h
  | some input => exact hchecked (checkRequiredOrg method input) h

theorem ClassifiedMethod.IsOf.streams {declared : MethodDecl} {classified : ClassifiedMethod}
    (h : classified.IsOf declared) (hview : classified.streamsView = true) :
    declared.serverStreaming = true := by
  rw [h.streamsView, Bool.and_eq_true] at hview
  exact hview.2

/-- A plan asks the enforcer as the directive of its method says. -/
structure MethodPlan.Follows (classified : ClassifiedMethod) (plan : MethodPlan) : Prop where
  resource : plan.resource = classified.directive.resource
  action : plan.action = classified.directive.action
  skips : plan.skipsEnforcement = classified.directive.skipsEnforcement
  streamsView : plan.streamsView = classified.streamsView
  orgPath : plan.orgPath =
    if classified.directive.hasOrg then some (Rust.fieldPath classified.directive.orgField) else none
  inputOrg : plan.inputOrg = plan.orgPath.elim "\"\"" ("&obj." ++ ·)
  itemOrg : plan.itemOrg = plan.orgPath.elim "\"\"" ("&res." ++ ·)
  requiredOrg : plan.requiredOrg = classified.method.requiredOrg?.map Rust.fieldPath

theorem MethodPlan.follows_of_ofMethod {request : Request} {service : String}
    {classified : ClassifiedMethod} {first : Bool} {plan : MethodPlan}
    (h : ofMethod request service classified first = .ok plan) : plan.Follows classified := by
  unfold ofMethod at h
  dsimp only at h
  split at h
  · cases h
  · obtain rfl := Except.ok.inj h
    constructor <;> rfl

theorem MethodPlan.exists_ofMethod (request : Request) (service : String) (classified : ClassifiedMethod)
    (first : Bool) (hinput : classified.method.inputType ≠ "") (houtput : classified.method.outputType ≠ "") :
    ∃ plan, ofMethod request service classified first = .ok plan := by
  unfold ofMethod
  dsimp only
  rw [if_neg (not_or.mpr ⟨hinput, houtput⟩)]
  exact ⟨_, rfl⟩

/-- What the plan of a method says about its input and its response fits together. -/
structure MethodPlan.Coherent (request : Request) (plan : MethodPlan) : Prop where
  hasFields : plan.hasFields = (request.message? plan.inputType).any (·.hasFields)
  derivesMask : plan.derivesMask = true → plan.hasFields = true
  streamsView : plan.streamsView = true → plan.streams = true

theorem MethodPlan.coherent_of_made {request : Request} {module : String} {plan : MethodPlan}
    (h : Generation.Made request module plan) : plan.Coherent request := by
  obtain ⟨service, method, start, last, h⟩ := h
  obtain ⟨classified, made, hclassify, hmake, -, rfl⟩ := Generation.planMethod_cases h
  have hof := ClassifiedMethod.isOf_of_classify hclassify
  unfold ofMethod at hmake
  dsimp only at hmake
  split at hmake
  · cases hmake
  · obtain rfl := Except.ok.inj hmake
    refine ⟨rfl, fun hmask => ?_, fun hview => ?_⟩
    · exact (Bool.and_eq_true_iff.mp (Bool.and_eq_true_iff.mp hmask).1).1
    · exact (congrArg MethodDecl.serverStreaming hof.method).trans (hof.streams hview)

theorem MethodPlan.check_eq_off {plan : MethodPlan} : plan.check = .off ↔ plan.skipsEnforcement = true := by
  unfold check
  split
  · next h => simp [h]
  · next h => split <;> simp [h]

theorem MethodPlan.streamsView_of_check {plan : MethodPlan} (h : plan.check = .items) :
    plan.streamsView = true := by
  unfold check at h
  split at h
  · cases h
  · split at h
    · next hview => exact hview
    · cases h

end RegionGateway
