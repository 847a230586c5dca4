import RegionGateway.Proofs.Output.TestGroups
import RegionGateway.Widgets.Interface

/-!
# The views of a request agree

Checking counts the gateway methods, the route table lists them, and the index of inputs says which services
take a message. All three are about the same methods:

* `Request.validate_eq_ok`: what is counted are the gateway methods;
* `InputIndex.mem_servicesOf`: a service takes a message if one of its routes does;
* `InputIndex.isShared_iff`: a message is shared if services of different names take it.

Together: `Request.views_agree`.
-/

namespace RegionGateway

/-- One result for each element. -/
theorem length_of_mapM_eq_ok {ε α β : Type} {f : α → Except ε β} {as : List α} {bs : List β}
    (h : as.mapM f = .ok bs) : bs.length = as.length := by
  induction as generalizing bs with
  | nil =>
      obtain rfl := Except.ok.inj h
      rfl
  | cons a as ih =>
      rw [List.mapM_cons] at h
      cases hfirst : f a with
      | error error => simp [hfirst, bind, Except.bind] at h
      | ok b =>
          cases hrest : as.mapM f with
          | error error => simp [hfirst, hrest, bind, Except.bind] at h
          | ok rest =>
              simp only [hfirst, hrest, bind, Except.bind, pure, Except.pure, Except.ok.injEq] at h
              rw [← h, List.length_cons, List.length_cons, ih hrest]

/-- A request is accepted if its modules are different and every gateway method is classified; the gateway
methods are counted. -/
theorem Request.validate_eq_ok {request : Request} {count : Nat} (h : request.validate = .ok count) :
    count = request.gatewayMethods.length := by
  unfold validate at h
  cases hmodules : checkModules [] (request.generatedFiles.filter (·.hasGatewayMethods)) with
  | error error => simp [hmodules, bind, Except.bind] at h
  | ok _ =>
      simp only [hmodules, bind, Except.bind] at h
      split at h
      · cases h
      · next classified hclassified =>
          rw [← Except.ok.inj h, length_of_mapM_eq_ok hclassified]

/-! ## The index of inputs -/

namespace InputIndex

/-- The services that take a message are those of its routes. -/
theorem mem_servicesOf {request : Request} {message service : String} :
    service ∈ (ofRequest request).servicesOf message ↔
      ∃ route ∈ Route.ofRequest request, route.inputType = message ∧ route.service = service := by
  simp only [servicesOf, ofRequest, Route.ofRequest, List.mem_map, List.mem_filter, beq_iff_eq]
  constructor
  · rintro ⟨_, ⟨⟨declared, hdeclared, rfl⟩, hmessage⟩, hservice⟩
    exact ⟨_, ⟨declared, hdeclared, rfl⟩, hmessage, hservice⟩
  · rintro ⟨_, ⟨declared, hdeclared, rfl⟩, hmessage, hservice⟩
    exact ⟨_, ⟨⟨declared, hdeclared, rfl⟩, hmessage⟩, hservice⟩

variable (index : InputIndex) (message : String)

/-- A message is an input if a service takes it. -/
theorem isInput_iff : index.isInput message = true ↔ ∃ service, service ∈ index.servicesOf message := by
  rw [isInput, Bool.not_eq_true', List.isEmpty_eq_false_iff, List.ne_nil_iff_exists_cons]
  constructor
  · rintro ⟨service, rest, hservices⟩
    exact ⟨service, hservices ▸ List.mem_cons_self⟩
  · rintro ⟨service, hservice⟩
    exact List.ne_nil_iff_exists_cons.mp (List.ne_nil_of_mem hservice)

/-- A message is shared if services of different names take it. -/
theorem isShared_iff : index.isShared message = true ↔
    ∃ a ∈ index.servicesOf message, ∃ b ∈ index.servicesOf message, a ≠ b := by
  unfold isShared
  cases index.servicesOf message with
  | nil => simp
  | cons first rest =>
      simp only [List.any_eq_true, bne_iff_ne]
      constructor
      · rintro ⟨other, hother, hne⟩
        exact ⟨other, List.mem_cons_of_mem _ hother, first, List.mem_cons_self, hne⟩
      · -- of two different names, one is not the first
        rintro ⟨a, ha, b, hb, hne⟩
        by_cases hfirst : a = first
        · have hb' : b ≠ first := fun h => hne (hfirst.trans h.symm)
          exact ⟨b, (List.mem_cons.mp hb).resolve_left hb', hb'⟩
        · exact ⟨a, (List.mem_cons.mp ha).resolve_left hfirst, hfirst⟩

end InputIndex

/-! ## All views -/

namespace Request

/-- **The views of a request agree.** If a request is accepted, as many methods are counted as the route table
has entries. A message is an input of the index exactly if a route takes it, and it is shared exactly if two
routes that take it are of services with different names. The services of the route table are the pairs of
module and service of its entries, each once, in the order of their first appearance. -/
theorem views_agree (request : Request) :
    let routes := Route.ofRequest request
    let inputs := InputIndex.ofRequest request
    let owners := routes.map fun route => (route.module, route.service)
    (∀ count, request.validate = .ok count → count = routes.length) ∧
      (∀ message, inputs.isInput message = true ↔ ∃ route ∈ routes, route.inputType = message) ∧
      (∀ message, inputs.isShared message = true ↔
        ∃ a ∈ routes, ∃ b ∈ routes,
          a.inputType = message ∧ b.inputType = message ∧ a.service ≠ b.service) ∧
      (Route.services routes).Nodup ∧
      (∀ owner, owner ∈ Route.services routes ↔ owner ∈ owners) ∧
      (Route.services routes).Pairwise fun a b => owners.idxOf a < owners.idxOf b := by
  refine ⟨fun count hvalid => ?_, fun message => ?_, fun message => ?_, Route.nodup_distinct _ _,
    fun owner => ?_, ?_⟩
  · rw [validate_eq_ok hvalid, Route.ofRequest, List.length_map]
  · simp only [InputIndex.isInput_iff, InputIndex.mem_servicesOf]
    constructor
    · rintro ⟨service, route, hroute, hmessage, -⟩
      exact ⟨route, hroute, hmessage⟩
    · rintro ⟨route, hroute, hmessage⟩
      exact ⟨route.service, route, hroute, hmessage, rfl⟩
  · simp only [InputIndex.isShared_iff, InputIndex.mem_servicesOf]
    constructor
    · rintro ⟨_, ⟨a, ha, hamessage, rfl⟩, _, ⟨b, hb, hbmessage, rfl⟩, hne⟩
      exact ⟨a, ha, b, hb, hamessage, hbmessage, hne⟩
    · rintro ⟨a, ha, b, hb, hamessage, hbmessage, hne⟩
      exact ⟨_, ⟨a, ha, hamessage, rfl⟩, _, ⟨b, hb, hbmessage, rfl⟩, hne⟩
  · rw [Route.services, Route.mem_distinct]
    exact and_iff_left List.not_mem_nil
  · -- pairs are compared component by component here, which comes to the same
    have hsame : (instBEqProd : BEq (String × String)) = instBEqOfDecidableEq :=
      lawful_beq_subsingleton _ _
    rw [hsame]
    exact Route.pairwise_distinct [] _

/-- Both services of the widgets take widgets, and only one of them settings. -/
theorem views_agree_widgets :
    Widgets.request.validate = .ok 7 ∧ (Route.ofRequest Widgets.request).length = 7 ∧
      (InputIndex.ofRequest Widgets.request).isShared "Widget" = true ∧
      (InputIndex.ofRequest Widgets.request).isShared "Settings" = false ∧
      Route.services (Route.ofRequest Widgets.request) =
        [("widget", "WidgetApi"), ("cluster", "ClusterApi")] := by
  have hvalid : Widgets.request.validate = .ok 7 := by decide +kernel
  refine ⟨hvalid, ((views_agree Widgets.request).1 7 hvalid).symm, ?_, ?_, ?_⟩
  · refine ((views_agree Widgets.request).2.2.1 "Widget").mpr ?_
    decide +kernel
  · refine Bool.eq_false_iff.mpr fun hshared => ?_
    have hroutes := ((views_agree Widgets.request).2.2.1 "Settings").mp hshared
    revert hroutes
    decide +kernel
  · decide +kernel

end Request

end RegionGateway
