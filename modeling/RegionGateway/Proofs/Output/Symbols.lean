import RegionGateway.Proofs.Interface.Requests
import RegionGateway.Proofs.Output.Watched

/-!
# What bindings, wrappers and tests refer to

The declarations generated for one method refer to what they import, if the plan of the method is `Plain`: in
client bindings (`Binding.refersTo_chunk`), wrappers (`Wrapper.refersTo_chunk`), test helpers
(`TestHelper.refersTo_chunk`) and permission tests (`PermissionTest.refersTo_chunk`). The tests of a message refer
to less than they import (`PermissionTest.refersTo_messageChunk`).
-/

namespace RegionGateway

open Rust

/-- The names of a plan are words that are not taken, and none of its other texts has words that are. -/
structure MethodPlan.Plain (taken : List String) (plan : MethodPlan) : Prop where
  service : IsFree taken plan.service
  method : IsFree taken plan.method
  inputType : IsFree taken plan.inputType
  outputType : IsFree taken plan.outputType
  wrapper : plan.wrapper ∉ taken
  wrapperField : Avoids taken plan.wrapperField
  wrapperModule : ∀ owner ∈ plan.wrapperModule, Avoids taken owner
  functionName : IsName plan.functionName ∧ Avoids taken plan.functionName
  resource : Avoids taken plan.resource
  action : Avoids taken plan.action
  inputOrg : Avoids taken plan.inputOrg
  itemOrg : Avoids taken plan.itemOrg
  orgPath : ∀ path ∈ plan.orgPath, Avoids taken path
  requiredOrg : ∀ path ∈ plan.requiredOrg, Avoids taken path
  orgFieldId : ∀ id ∈ plan.orgFieldId, Avoids taken id
  fieldIds : ∀ field ∈ plan.fieldIds, Avoids taken field.1 ∧ Avoids taken field.2

instance (taken : List String) (plan : MethodPlan) : Decidable (plan.Plain taken) :=
  decidable_of_iff (IsFree taken plan.service ∧ IsFree taken plan.method ∧ IsFree taken plan.inputType ∧
      IsFree taken plan.outputType ∧ plan.wrapper ∉ taken ∧ Avoids taken plan.wrapperField ∧
      (∀ owner ∈ plan.wrapperModule, Avoids taken owner) ∧
      (IsName plan.functionName ∧ Avoids taken plan.functionName) ∧ Avoids taken plan.resource ∧
      Avoids taken plan.action ∧ Avoids taken plan.inputOrg ∧ Avoids taken plan.itemOrg ∧
      (∀ path ∈ plan.orgPath, Avoids taken path) ∧ (∀ path ∈ plan.requiredOrg, Avoids taken path) ∧
      (∀ id ∈ plan.orgFieldId, Avoids taken id) ∧
      ∀ field ∈ plan.fieldIds, Avoids taken field.1 ∧ Avoids taken field.2)
    ⟨fun ⟨h₁, h₂, h₃, h₄, h₅, h₆, h₇, h₈, h₉, h₁₀, h₁₁, h₁₂, h₁₃, h₁₄, h₁₅, h₁₆⟩ =>
        ⟨h₁, h₂, h₃, h₄, h₅, h₆, h₇, h₈, h₉, h₁₀, h₁₁, h₁₂, h₁₃, h₁₄, h₁₅, h₁₆⟩,
      fun ⟨h₁, h₂, h₃, h₄, h₅, h₆, h₇, h₈, h₉, h₁₀, h₁₁, h₁₂, h₁₃, h₁₄, h₁₅, h₁₆⟩ =>
        ⟨h₁, h₂, h₃, h₄, h₅, h₆, h₇, h₈, h₉, h₁₀, h₁₁, h₁₂, h₁₃, h₁₄, h₁₅, h₁₆⟩⟩

theorem MethodPlan.Plain.isFree_wrapper {taken : List String} {plan : MethodPlan} (h : plan.Plain taken) :
    IsFree taken plan.wrapper :=
  ⟨isWord_append (by decide) (List.all_eq_true.mpr h.inputType.1.2), h.wrapper⟩

/-- The tests of a message are about methods whose names are not taken. -/
structure MessageTests.Plain (taken : List String) (tests : MessageTests) : Prop where
  message : Avoids taken tests.message
  suffix : IsWord tests.suffix
  guarded : ∀ plan ∈ tests.guarded, plan.Plain taken
  views : ∀ plan ∈ tests.views, plan.Plain taken

variable {paths : ModulePaths} {p : Mention → Bool} {plan : MethodPlan}

/-! ## Parameters -/

theorem modifiersParameter_fst (inputType name : String) :
    (modifiersParameter paths inputType name).1 = name := rfl

section

variable (hw : Watches paths p)
include hw

theorem any_str : Ty.str.leaves.any (hits p) = false := by
  simp (disch := (apply checks_of; with_reducible rfl; decide)) [Ty.str, hits_fixed hw]

/-- The field of a wrapper, as it stands in a declaration. -/
theorem hits_wrapperField (h : plan.Plain paths.watched) : hits p (plan.wrapperField ++ ":") = false :=
  (hits_label (isName_ident h.inputType.1)).trans (hits_avoids hw h.wrapperField)

theorem any_callerParameters :
    (Parameters.leaves callerParameters).any (hits p) = p ("ApiTransport", true) := by
  have htransport : hits p "ApiTransport" = p ("ApiTransport", true) := hits_symbol hw (by decide)
  simp (disch := (apply checks_of; with_reducible rfl; decide)) [callerParameters, hits_fixed hw, any_str hw,
    htransport]

end

section

variable (hpaths : paths.Apart) (hw : Watches paths p)
include hpaths hw

theorem any_messageType {name : String} (h : Avoids paths.watched name) :
    (paths.messageType name).leaves.any (hits p) = p (localName paths.messages, true) := by
  simp [ModulePaths.messageType, hits_inModule hpaths paths.messages_mem, hits_avoids hw h]

theorem any_modifiers {inputType : String} (h : Avoids paths.watched inputType) (name : String) :
    (modifiersParameter paths inputType name).2.leaves.any (hits p) =
      (p ("ModFn", true) || p (localName paths.messages, true)) := by
  have hmodifier : hits p "ModFn" = p ("ModFn", true) := hits_symbol hw (by decide)
  simp (disch := (apply checks_of; with_reducible rfl; decide)) [modifiersParameter, hits_fixed hw,
    any_messageType hpaths hw h, hmodifier]

end

/-! ## Client bindings -/

namespace Binding

variable (hpaths : paths.Apart) (hw : Watches paths p)
include hpaths hw

theorem any_outcome (h : Avoids paths.watched plan.outputType) :
    (outcome paths plan).leaves.any (hits p) = (p (localName paths.messages, true) || p ("ClientError", true)) := by
  have herror : hits p "ClientError" = p ("ClientError", true) := hits_symbol hw (by decide)
  unfold outcome
  split <;> simp (disch := (apply checks_of; with_reducible rfl; decide)) [hits_fixed hw,
    any_messageType hpaths hw h, herror]

theorem refersTo_chunk (h : plan.Plain paths.watched) :
    (chunk paths plan).refersTo p = (chunk paths plan).bringsIn p := by
  have hcall : hits p (callName plan) = p (callName plan, true) := by
    unfold callName
    split <;> exact hits_symbol hw (by decide)
  have hwrapper := hits_avoids hw h.isFree_wrapper.avoids
  rw [Chunk.refersTo_eq _ hw.ignores, Chunk.bringsIn, chunk, any_uses hw (by simp [ModulePaths.modules])]
  simp (disch := (apply checks_of; with_reducible rfl; decide)) [function, Item.leaves, Function.leaves,
    any_callerParameters hw, hits_fixed hw, hits_before hw, hits_behind hw, hits_avoids hw h.method.avoids,
    hits_avoids hw h.functionName.2, any_outcome hpaths hw h.outputType.avoids,
    hits_inModule hpaths paths.wrappers_mem, hwrapper, hcall]
  grind

end Binding

/-! ## Wrappers -/

namespace Wrapper

variable (hpaths : paths.Apart) (hw : Watches paths p)
include hpaths hw

theorem refersTo_declaration (h : plan.Plain paths.watched) :
    (declaration paths plan).refersTo p = (declaration paths plan).bringsIn p := by
  have hobject : hits p "RegionObj" = p ("RegionObj", true) := hits_symbol hw (by decide)
  have hfields : hits p "RegionObjFields" = p ("RegionObjFields", true) := hits_symbol hw (by decide)
  have hlabel := hits_wrapperField hw h
  have hkept : p ("Serialize", true) = false ∧ p ("Deserialize", true) = false :=
    ⟨hw.kept (by decide), hw.kept (by decide)⟩
  have hmessage := any_messageType hpaths hw h.inputType.avoids
  have hmodules : [paths.messages] ⊆ paths.modules := by simp [ModulePaths.modules]
  rw [Chunk.refersTo_eq _ hw.ignores, Chunk.bringsIn]
  simp only [declaration, List.any_append, any_uses hw hmodules]
  cases plan.hasFields <;>
    simp (disch := (apply checks_of; with_reducible rfl; decide)) [struct, objectAccess, fieldsAccess,
      Item.leaves, Field.leaves, ImplMember.leaves, any_str hw, hits_fixed hw, hits_before hw, hits_behind hw,
      hits_avoids hw h.inputType.avoids, hits_avoids hw h.isFree_wrapper.avoids, hits_avoids hw h.wrapperField,
      hlabel, hobject, hfields, hkept, hmessage] <;>
    grind

theorem refersTo_chunk (h : plan.Plain paths.watched) :
    (chunk paths plan).refersTo p = (chunk paths plan).bringsIn p := by
  have halias : hits p (plan.method ++ "Request") = false :=
    hits_suffixed hw h.method.1 (by decide) (by decide)
  have hname : (Chunk.mk [] [requestAlias plan]).refersTo p = false := by
    rw [Chunk.refersTo_eq _ hw.ignores]
    simp (disch := (apply checks_of; with_reducible rfl; decide)) [requestAlias, Item.leaves, hits_before hw,
      hits_behind hw, halias, hits_avoids hw h.method.avoids, hits_avoids hw h.isFree_wrapper.avoids]
  rw [chunk, Chunk.refersTo_append _ hw.ignores, Chunk.bringsIn_append, hname, Bool.or_false]
  split
  · rw [refersTo_declaration hpaths hw h]
    simp [Chunk.bringsIn]
  · rw [Chunk.refersTo_eq _ hw.ignores]
    cases plan.wrapperModule <;> simp [Chunk.bringsIn, hw.free h.wrapper]

end Wrapper

/-! ## Test helpers -/

namespace TestHelper

variable (hpaths : paths.Apart) (hw : Watches paths p)
include hpaths hw

omit hpaths in
theorem any_scoping (h : plan.Plain paths.watched) : (Stmt.allLeaves (scoping plan)).any (hits p) = false := by
  unfold scoping
  split
  · rfl
  · next path hpath =>
      have hplace := hits_avoids hw (h.orgPath path hpath)
      cases hid : plan.orgFieldId with
      | none =>
          simp (disch := (apply checks_of; with_reducible rfl; decide)) [hits_fixed hw, hits_behind hw, hplace]
      | some id =>
          have hliteral := hits_avoids hw (h.orgFieldId id hid)
          simp (disch := (apply checks_of; with_reducible rfl; decide)) [hits_fixed hw, hits_behind hw, hplace,
            hliteral]

theorem refersTo_chunk (h : plan.Plain paths.watched) :
    (chunk paths plan).refersTo p = (chunk paths plan).bringsIn p := by
  have hfree : (∀ symbol ∈ runtimeSymbols, ¬ "test_".toList <+: symbol.toList) ∧
      ∀ symbol ∈ runtimeSymbols, ¬ "test_perm_".toList <+: symbol.toList := by decide
  have hsend := hits_prefixed hw (by decide) hfree.1 h.functionName.1 h.functionName.2
  have hscoped := hits_prefixed hw (by decide) hfree.2 h.functionName.1 h.functionName.2
  have hlabel := hits_wrapperField hw h
  -- The message type and the function behind it are one text, with a double colon behind both names.
  have hplain : IsFixed "default" := checks_of rfl rfl
  have hdefault : hits p ((paths.messageType plan.inputType).text ++ "::default") =
      p (localName paths.messages, true) := by
    have hrest : hits p (plan.inputType ++ "::" ++ "default") = false := by
      rw [hits, mentions_inModule h.inputType.1, List.any_cons, hw.free h.inputType.2, ← hits, hits_fixed hw hplain]
      rfl
    have hparts : (paths.messageType plan.inputType).text ++ "::default" =
        localName paths.messages ++ "::" ++ (plan.inputType ++ "::" ++ "default") := by
      simp only [ModulePaths.messageType, Ty.text, String.append_assoc]
      rfl
    rw [hparts, hits_inModule hpaths paths.messages_mem, hrest, Bool.or_false]
  have hmessage := any_messageType hpaths hw h.inputType.avoids
  have hmodifiers := any_modifiers hpaths hw h.inputType.avoids "mod_funcs"
  rw [Chunk.refersTo_eq _ hw.ignores, Chunk.bringsIn, chunk, any_uses hw (by simp [ModulePaths.modules])]
  cases horg : plan.orgPath <;>
    simp (disch := (apply checks_of; with_reducible rfl; decide)) [sendInput, sendForOrg, Item.leaves,
      Function.leaves, any_callerParameters hw, any_str hw, callOn, modifiersParameter_fst, hmodifiers,
      hits_fixed hw, hits_before hw, hits_behind hw, hits_avoids hw h.method.avoids, any_scoping hw h, horg,
      Binding.any_outcome hpaths hw h.outputType.avoids, hits_inModule hpaths paths.wrappers_mem,
      hits_inModule hpaths paths.bindings_mem, hits_avoids hw h.functionName.2, hits_avoids hw h.wrapperField,
      hits_avoids hw h.isFree_wrapper.avoids, hsend, hscoped, hlabel, hdefault, hmessage] <;>
    grind

end TestHelper

/-! ## Permission tests -/

namespace PermissionTest

/-- What the names of the test functions of a method begin with. -/
def methodStarts : List String := ["bad_perm_", "bad_", "good_perm_", "bad_region_"]

/-- What the names of the test functions of a message begin with. -/
def groupStarts : List String :=
  ["bad_perm_test_", "bad_perm_test_show_", "good_perm_test_", "good_perm_test_show_", "perm_test_"]

/-- No symbol of the runtime begins like the name of a test function. -/
theorem starts_free : ∀ start ∈ methodStarts ++ groupStarts, IsWord start ∧
    ∀ symbol ∈ runtimeSymbols, ¬ start.toList <+: symbol.toList := by decide

theorem leaves_runTest (name : String) (arguments : List String) :
    (runTest name arguments).leaves = name :: arguments := by
  simp only [runTest, callOn, Stmt.leaves, Expr.leaves, Expr.allLeaves_places]

section

variable (hw : Watches paths p)
include hw

/-- A text that begins with the name of a method. -/
theorem hits_complaint (h : plan.Plain paths.watched) : hits p (plan.method ++ ": \x7berr\x7d") = false := by
  have hparts : ": \x7berr\x7d" = ": " ++ "\x7berr\x7d" := rfl
  have hrest : IsFixed "\x7berr\x7d" := checks_of rfl rfl
  rw [hparts, hits_colon hw.ignores, hits_label ⟨_, h.method.1, .inl rfl⟩, hits_avoids hw h.method.avoids,
    hits_fixed hw hrest]
  rfl

theorem any_panic (h : plan.Plain paths.watched) {text : String} (hstart : StartsOpen text)
    (htext : IsFixed text) : (panic plan text).leaves.any (hits p) = false := by
  simp (disch := (apply checks_of; with_reducible rfl; decide)) [panic, hits_fixed hw,
    hits_before hw hstart htext, hits_avoids hw h.method.avoids]

theorem any_expectStatus (h : plan.Plain paths.watched) {status : String} (hstatus : IsFixed status) :
    (expectStatus plan status).leaves.any (hits p) = false := by
  simp (disch := (apply checks_of; with_reducible rfl; decide)) [expectStatus, hits_fixed hw,
    hits_fixed hw hstatus, hits_complaint hw h]

theorem any_expectText (h : plan.Plain paths.watched) {text : String} (htext : IsFixed text) :
    (expectText plan text).leaves.any (hits p) = false := by
  simp (disch := (apply checks_of; with_reducible rfl; decide)) [expectText, hits_fixed hw, hits_fixed hw htext,
    hits_complaint hw h]

theorem any_testFunction (doc name : String) {between : List String}
    (hbetween : ∀ parameter ∈ between, hits p (parameter ++ ":") = false) (more : Parameters) (body : List Stmt) :
    (testFunction doc name between more body).leaves.any (hits p) =
      (hits p doc || (hits p name || (p ("ApiTransport", true) ||
        ((Parameters.leaves more).any (hits p) || (Stmt.allLeaves body).any (hits p))))) := by
  have htexts : (Parameters.leaves (between.map (·, Ty.str))).any (hits p) = false := by
    induction between with
    | nil => rfl
    | cons parameter rest ih =>
        obtain ⟨hfirst, hrest⟩ := List.forall_mem_cons.mp hbetween
        rw [List.map_cons, Parameters.leaves_cons, List.any_cons, List.any_append, any_str hw, hfirst, ih hrest]
        rfl
  simp [testFunction, Item.leaves, Function.leaves, any_callerParameters hw, htexts]

theorem scope_labels : ∀ parameter ∈ ["region", "org"], hits p (parameter ++ ":") = false := by
  simp (disch := (apply checks_of; with_reducible rfl; decide)) [hits_fixed hw]

theorem any_userArguments : userArguments.any (hits p) = false := by
  simp (disch := (apply checks_of; with_reducible rfl; decide)) [userArguments, hits_fixed hw]

/-- The names of the test functions of a method. -/
theorem hits_testName (h : plan.Plain paths.watched) {start : String} (hstart : start ∈ methodStarts) :
    hits p (start ++ plan.functionName) = false := by
  obtain ⟨hword, hfree⟩ := starts_free start (List.mem_append_left _ hstart)
  exact hits_prefixed hw hword hfree h.functionName.1 h.functionName.2

/-- The names of the test functions of a message. -/
theorem hits_groupName {suffix : String} (hsuffix : IsWord suffix) {start : String} (hstart : start ∈ groupStarts) :
    hits p (start ++ suffix) = false := by
  obtain ⟨hword, hfree⟩ := starts_free start (List.mem_append_right _ hstart)
  exact hits_start hw hword hfree hsuffix

/-- The calls of the test functions of methods. -/
theorem any_runs {plans : List MethodPlan} (h : ∀ plan ∈ plans, plan.Plain paths.watched) {start : String}
    (hstart : start ∈ methodStarts) {arguments : List String} (harguments : arguments.any (hits p) = false) :
    (Stmt.allLeaves (plans.map fun plan => runTest (start ++ plan.functionName) arguments)).any (hits p) =
      false := by
  induction plans with
  | nil => rfl
  | cons plan rest ih =>
      obtain ⟨hplan, hrest⟩ := List.forall_mem_cons.mp h
      rw [List.map_cons, Stmt.allLeaves, List.any_append, leaves_runTest, List.any_cons, ih hrest, harguments,
        hits_testName hw hplan hstart]
      rfl

end

variable (hpaths : paths.Apart) (hw : Watches paths p)
include hpaths hw

theorem any_helperCall (h : plan.Plain paths.watched) (region modifiers : Expr) :
    (helperCall paths plan region modifiers).leaves.any (hits p) =
      (p (localName paths.testHelpers, true) || (region.leaves.any (hits p) || modifiers.leaves.any (hits p))) := by
  have hparts : localName paths.testHelpers ++ "::test_perm_" ++ plan.functionName =
      localName paths.testHelpers ++ "::" ++ ("test_perm_" ++ plan.functionName) := by
    rw [String.append_assoc, String.append_assoc, ← @String.append_assoc "::"]
    rfl
  have hname := hits_prefixed hw (a := "test_perm_") (by decide) (by decide) h.functionName.1 h.functionName.2
  simp (disch := (apply checks_of; with_reducible rfl; decide)) only [helperCall, Expr.leaves, Expr.allLeaves, hparts]
  simp (disch := (apply checks_of; with_reducible rfl; decide)) [hits_inModule hpaths paths.testHelpers_mem,
    hname, hits_fixed hw]

theorem any_expectError (h : plan.Plain paths.watched) {region : Expr}
    (hregion : region.leaves.any (hits p) = false) {complaint : String} (hstart : StartsOpen complaint) (hcomplaint : IsFixed complaint) :
    (Stmt.allLeaves (expectError paths plan region complaint)).any (hits p) =
      p (localName paths.testHelpers, true) := by
  simp (disch := (apply checks_of; with_reducible rfl; decide)) [expectError, any_helperCall hpaths hw h,
    hregion, any_panic hw h hstart hcomplaint, hits_fixed hw]

theorem refersTo_chunk (h : plan.Plain paths.watched) :
    (chunk paths plan).refersTo p = (chunk paths plan).bringsIn p := by
  have hmodifiers := any_modifiers hpaths hw h.inputType.avoids "mod_funcs"
  have hscope := scope_labels hw
  have horg : ∀ parameter ∈ ["org"], hits p (parameter ++ ":") = false :=
    fun parameter h => hscope parameter (List.mem_cons_of_mem _ h)
  have hunknown : " in region " ++ unknownRegion ++ " should fail" = " in region nope should fail" ∧
      "\\\"" ++ unknownRegion ++ "\\\" not found" = "\\\"nope\\\" not found" := ⟨rfl, rfl⟩
  have hregion : (Expr.place "region").leaves.any (hits p) = false := by
    simp (disch := (apply checks_of; with_reducible rfl; decide)) [hits_fixed hw]
  have hnowhere : (Expr.literal unknownRegion).leaves.any (hits p) = false := by
    simp (disch := (apply checks_of; with_reducible rfl; decide)) [unknownRegion, hits_fixed hw]
  have hname : ∀ start ∈ methodStarts, hits p (start ++ plan.functionName) = false :=
    fun start => hits_testName hw h
  rw [Chunk.refersTo_eq _ hw.ignores, Chunk.bringsIn, chunk, uses, any_uses hw (by simp [ModulePaths.modules])]
  simp (disch := (apply checks_of; with_reducible rfl; decide)) [forbidden, failing, succeeding,
    failingInRegion, any_testFunction hw _ _ hscope, any_testFunction hw _ _ horg, hits_before hw,
    hits_behind hw, hits_fixed hw, hits_avoids hw h.method.avoids, hname "bad_perm_" (by decide),
    hname "bad_" (by decide), hname "good_perm_" (by decide), hname "bad_region_" (by decide),
    modifiersParameter_fst, hmodifiers, any_expectError hpaths hw h hregion,
    any_expectError hpaths hw h hnowhere, any_expectText hw h, any_expectStatus hw h,
    any_helperCall hpaths hw h, any_panic hw h, hunknown]
  grind

/-! ### Tests of a message -/

/-- The checks of views call a helper for each view. -/
theorem any_showChecks {plans : List MethodPlan} (h : ∀ plan ∈ plans, plan.Plain paths.watched) {count : String}
    (hcount : IsFixed count) (unknownRegionToo : Bool) (n : Nat) :
    (Stmt.allLeaves (showChecks paths count unknownRegionToo n plans)).any (hits p) =
      (!plans.isEmpty && p (localName paths.testHelpers, true)) := by
  induction plans generalizing n with
  | nil => rfl
  | cons plan rest ih =>
      obtain ⟨hplan, hrest⟩ := List.forall_mem_cons.mp h
      have hlist : hits p ("list" ++ String.ofList (Nat.toDigits 10 n)) = false :=
        hits_start hw (by decide) (by decide) (isWord_decimal n)
      have hname : hits p ("bad_region_" ++ plan.functionName) = false := hits_testName hw hplan (by decide)
      have hrun : (Stmt.allLeaves (if unknownRegionToo then
          [runTest ("bad_region_" ++ plan.functionName) ["transport", "uri", "token", "org", "&[]"]]
          else [])).any (hits p) = false := by
        cases unknownRegionToo <;> simp (disch := (apply checks_of; with_reducible rfl; decide)) [
          leaves_runTest, hits_fixed hw, hname]
      simp (disch := (apply checks_of; with_reducible rfl; decide)) only [showChecks, Stmt.allLeaves_append,
        List.any_append, ih hrest, hrun]
      simp (disch := (apply checks_of; with_reducible rfl; decide)) [any_helperCall hpaths hw hplan,
        any_panic hw hplan, hits_before hw, hits_avoids hw hplan.method.avoids, hits_fixed hw,
        hits_fixed hw hcount, hlist]

section

variable {tests : MessageTests} (h : tests.Plain paths.watched)
include h

theorem any_foreignChanges : (foreignChanges paths tests).leaves.any (hits p) =
    (p ("ApiTransport", true) || (p ("ModFn", true) || p (localName paths.messages, true))) := by
  have harguments : (userArguments ++ ["mod_funcs"]).any (hits p) = false := by
    simp (disch := (apply checks_of; with_reducible rfl; decide)) [any_userArguments hw, hits_fixed hw]
  have hruns := any_runs hw h.guarded (show "bad_perm_" ∈ methodStarts by decide) harguments
  have hname : hits p ("bad_perm_test_" ++ tests.suffix) = false := hits_groupName hw h.suffix (by decide)
  simp (disch := (apply checks_of; with_reducible rfl; decide)) [foreignChanges,
    any_testFunction hw _ _ (scope_labels hw), modifiersParameter_fst, any_modifiers hpaths hw h.message, hruns,
    hname, hits_fixed hw]

theorem any_foreignViews : (foreignViews paths tests).leaves.any (hits p) =
    (p ("ApiTransport", true) || !tests.views.isEmpty && p (localName paths.testHelpers, true)) := by
  have hname : hits p ("bad_perm_test_show_" ++ tests.suffix) = false := hits_groupName hw h.suffix (by decide)
  simp (disch := (apply checks_of; with_reducible rfl; decide)) [foreignViews,
    any_testFunction hw _ _ (scope_labels hw), any_showChecks hpaths hw h.views, hname, hits_fixed hw]

theorem any_ownChanges : (ownChanges paths tests).leaves.any (hits p) =
    (p ("ApiTransport", true) || (p ("ModFn", true) || p (localName paths.messages, true))) := by
  have harguments : (userArguments ++ ["mod_funcs"]).any (hits p) = false ∧
      ["transport", "uri", "token", "org", "mod_funcs"].any (hits p) = false := by
    simp (disch := (apply checks_of; with_reducible rfl; decide)) [any_userArguments hw, hits_fixed hw]
  have hgood := any_runs hw h.guarded (show "good_perm_" ∈ methodStarts by decide) harguments.1
  have hregion := any_runs hw h.guarded (show "bad_region_" ∈ methodStarts by decide) harguments.2
  have hname : hits p ("good_perm_test_" ++ tests.suffix) = false := hits_groupName hw h.suffix (by decide)
  have hshow : hits p ("good_perm_test_show_" ++ tests.suffix) = false := hits_groupName hw h.suffix (by decide)
  cases hguarded : tests.guarded.isEmpty <;> cases hviews : tests.views.isEmpty <;>
    simp (disch := (apply checks_of; with_reducible rfl; decide)) [ownChanges, hguarded, hviews,
      any_testFunction hw _ _ (scope_labels hw), modifiersParameter_fst, any_modifiers hpaths hw h.message,
      leaves_runTest, any_userArguments hw, hgood, hregion, hname, hshow, hits_fixed hw]

theorem any_ownViews : (ownViews paths tests).leaves.any (hits p) =
    (p ("ApiTransport", true) || !tests.views.isEmpty && p (localName paths.testHelpers, true)) := by
  have hname : hits p ("good_perm_test_show_" ++ tests.suffix) = false := hits_groupName hw h.suffix (by decide)
  simp (disch := (apply checks_of; with_reducible rfl; decide)) [ownViews,
    any_testFunction hw _ _ (scope_labels hw), any_showChecks hpaths hw h.views, hname, hits_fixed hw]

theorem any_matrix : (matrix paths tests).leaves.any (hits p) =
    (p ("ApiTransport", true) || (p ("ModFn", true) || p (localName paths.messages, true))) := by
  have htransport : hits p "ApiTransport" = p ("ApiTransport", true) := hits_symbol hw (by decide)
  have hname : ∀ start ∈ groupStarts, hits p (start ++ tests.suffix) = false :=
    fun start => hits_groupName hw h.suffix
  cases hguarded : tests.guarded.isEmpty <;> cases hviews : tests.views.isEmpty <;>
    simp (disch := (apply checks_of; with_reducible rfl; decide)) [matrix, hguarded, hviews, Item.leaves,
      Function.leaves, any_str hw, modifiersParameter_fst, any_modifiers hpaths hw h.message, leaves_runTest,
      htransport, hname "bad_perm_test_" (by decide), hname "bad_perm_test_show_" (by decide),
      hname "good_perm_test_" (by decide), hname "perm_test_" (by decide), hits_fixed hw]

/-- The tests of a message call helpers for its views only. -/
theorem refersTo_messageChunk : (messageChunk paths tests).refersTo p =
    (p ("ApiTransport", true) || (p ("ModFn", true) || (p (localName paths.messages, true) ||
      !tests.views.isEmpty && p (localName paths.testHelpers, true)))) := by
  rw [Chunk.refersTo_eq _ hw.ignores, messageChunk]
  cases hguarded : tests.guarded.isEmpty <;> cases hviews : tests.views.isEmpty <;>
    simp [any_foreignChanges hpaths hw h, any_foreignViews hpaths hw h, any_ownChanges hpaths hw h,
      any_ownViews hpaths hw h, any_matrix hpaths hw h, hviews] <;>
    grind

end

end PermissionTest

end RegionGateway
