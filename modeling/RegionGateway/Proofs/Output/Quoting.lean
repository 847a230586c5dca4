import RegionGateway.Proofs.Output.Directives
import RegionGateway.Proofs.Output.HandlerText
import RegionGateway.Proofs.Rust.Literals

/-!
# Quoted resources and actions

The resource and the action of a directive stand as they are between the quotes of the question to the
enforcer (`exists_quotes`). So the enforcer is asked about them if they have plain characters only, and
about something else, or the handler is no Rust, if they do not (`directive_quoted_iff`).
-/

namespace RegionGateway.Handler

open Rust

variable {α : Type} {part inner whole : α → String}

/-- A text that stands in another one, at a place that does not depend on what they are made of. -/
def StandsIn (part whole : α → String) : Prop := ∃ before after, ∀ a, whole a = before ++ part a ++ after

theorem StandsIn.around (h : StandsIn part inner) (before after : String)
    (hwhole : ∀ a, whole a = before ++ inner a ++ after) : StandsIn part whole := by
  obtain ⟨first, last, hinner⟩ := h
  refine ⟨before ++ first, last ++ after, fun a => ?_⟩
  rw [hwhole, hinner]
  simp only [String.append_assoc]

theorem lines_append (depth : Nat) (xs ys : List Stmt) :
    Stmt.lines depth (xs ++ ys) = Stmt.lines depth xs ++ Stmt.lines depth ys := by
  induction xs with
  | nil => simp [Stmt.lines]
  | cons x xs ih => simp [Stmt.lines, ih, String.append_assoc]

/-- The two literals for a resource and an action. -/
def literals (resource action : String) : String := "\"" ++ resource ++ "\", \"" ++ action ++ "\""

/-- The question to the enforcer up to its last two arguments. -/
def questionStart (org : String) : String := "enforcer.enforce(&rc.username, " ++ org ++ ", "

theorem question_text (plan : MethodPlan) (org : String) (depth : Nat) :
    (question plan org).text depth = questionStart org ++ literals plan.resource plan.action ++ ")" := by
  have hparts : (question plan org).text depth = "enforcer" ++ "." ++ "enforce" ++ "(" ++
      Text.join ", " ["&rc.username", org, "\"" ++ plan.resource ++ "\"", "\"" ++ plan.action ++ "\""] ++
      ")" := by
    simp only [question, Expr.text, Expr.texts]
  rw [hparts]
  unfold questionStart literals
  rw [← String.toList_inj]
  simp [Text.join]

/-- The plan for another resource and another action. -/
def asking (plan : MethodPlan) (asked : String × String) : MethodPlan :=
  { plan with resource := asked.1, action := asked.2 }

/-- The question to the enforcer up to the end of its last argument, for a resource and an action. -/
def questionText (org : String) (asked : String × String) : String :=
  questionStart org ++ literals asked.1 asked.2

/-- The organization that the enforcer is asked about. -/
def checkedOrg (plan : MethodPlan) : String := if plan.check = .items then plan.itemOrg else plan.inputOrg

variable (paths : ModulePaths) {org : String}

theorem standsIn_question (plan : MethodPlan) (depth : Nat) :
    StandsIn (questionText org) fun asked => (question (asking plan asked) org).text depth :=
  ⟨"", ")", fun asked => by simp only [question_text, asking, questionText, String.empty_append]⟩

theorem standsIn_inputCheck {plan : MethodPlan} (h : plan.check = .input) (depth : Nat) :
    StandsIn (questionText plan.inputOrg) fun asked => Stmt.lines depth (inputCheck (asking plan asked)) := by
  have hrefusal : StandsIn (questionText plan.inputOrg) fun asked =>
      Stmt.text (depth + 1) (.whenTrue (.negate (question (asking plan asked) plan.inputOrg))
        [refuse (.place "GatewayError::Forbidden")] []) := by
    refine (standsIn_question plan (depth + 1)).around (indent (depth + 1) ++ "if " ++ "!")
      (" \x7b\n" ++ Stmt.lines (depth + 2) [refuse (.place "GatewayError::Forbidden")] ++
        indent (depth + 1) ++ "\x7d") fun asked => ?_
    simp only [Stmt.text, Expr.text, String.append_assoc]
  refine hrefusal.around (indent depth ++ "if " ++ "!" ++ "rc.skip_authz" ++ " \x7b\n" ++
    Stmt.lines (depth + 1) (plan.requiredOrg.map requireOrg).toList) ("\n" ++ indent depth ++ "\x7d" ++ "\n")
    fun asked => ?_
  have hcheck : (asking plan asked).check = .input := h
  simp only [inputCheck, hcheck, Stmt.lines, Stmt.text, lines_append, Expr.text, String.append_assoc,
    String.append_empty]
  rfl

theorem standsIn_serve {plan : MethodPlan} (h : plan.check = .items) (hstreams : plan.streams = true)
    (depth : Nat) :
    StandsIn (questionText plan.itemOrg) fun asked => Stmt.lines depth (serve paths (asking plan asked)) := by
  refine (standsIn_question plan (depth + 1)).around (indent depth ++ "serve_stream" ++ "(" ++ "sink" ++ ", " ++
      (backendCall plan).text depth ++ ", " ++ "|" ++ itemName plan ++ ": " ++
      (Ty.borrowed false (paths.messageType plan.outputType)).text ++ "| \x7b\n" ++ indent (depth + 1) ++
      "rc.skip_authz" ++ " || ")
    ("\n" ++ indent depth ++ "\x7d" ++ ")" ++ "\n" ++ indent depth ++ ".await" ++ "\n") fun asked => ?_
  have hcheck : (asking plan asked).check = .items := h
  have hstreams : (asking plan asked).streams = true := hstreams
  simp only [serve, hstreams, if_true, itemFilter, hcheck, Stmt.lines, Stmt.text, Expr.text, Expr.texts,
    Text.join, String.append_assoc, String.append_empty]
  rfl

theorem standsIn_body {plan : MethodPlan} (h : plan.check ≠ .off)
    (hstreams : plan.streamsView = true → plan.streams = true) :
    StandsIn (questionText (checkedOrg plan)) fun asked => Stmt.lines 1 (body paths (asking plan asked)) := by
  have hopening : ∀ asked, opening paths (asking plan asked) = opening paths plan := fun _ => rfl
  cases hcheck : plan.check with
  | off => exact absurd hcheck h
  | input =>
      rw [checkedOrg, hcheck, if_neg nofun]
      refine (standsIn_inputCheck hcheck 1).around (Stmt.lines 1 (opening paths plan))
        (Stmt.lines 1 (serve paths plan)) fun asked => ?_
      have hserve : serve paths (asking plan asked) = serve paths plan := by
        have hasked : (asking plan asked).check = .input := hcheck
        simp only [serve, itemFilter, itemName, hasked, hcheck]
        rfl
      rw [body_eq, hopening, lines_append, lines_append, hserve]
  | items =>
      rw [checkedOrg, hcheck, if_pos rfl]
      have hstreams : plan.streams = true := hstreams (MethodPlan.streamsView_of_check hcheck)
      refine (standsIn_serve paths hcheck hstreams 1).around (Stmt.lines 1 (opening paths plan)) ""
        fun asked => ?_
      have hnone : inputCheck (asking plan asked) = [] := by
        have hasked : (asking plan asked).check = .items := hcheck
        simp only [inputCheck, hasked]
      rw [body_eq, hopening, lines_append, lines_append, hnone, Stmt.lines, String.append_empty,
        String.append_empty]

theorem exists_functionText (f : Function) : ∃ start, ∀ body,
    Function.text { f with body := body } = start ++ Stmt.lines 1 body ++ "\x7d\n" := by
  cases hbounds : f.bounds with
  | none =>
      simp only [Function.text, Option.isSome_none, Bool.false_eq_true, if_false]
      exact ⟨_, fun _ => rfl⟩
  | some bounds =>
      simp only [Function.text, Option.isSome_some, if_true]
      exact ⟨_, fun _ => rfl⟩

theorem standsIn_chunk {plan : MethodPlan} (h : plan.check ≠ .off)
    (hstreams : plan.streamsView = true → plan.streams = true) :
    StandsIn (questionText (checkedOrg plan)) fun asked => (chunk paths (asking plan asked)).text := by
  obtain ⟨start, hfunction⟩ := exists_functionText (function paths plan)
  have htext : StandsIn (questionText (checkedOrg plan)) fun asked =>
      (Item.function (function paths (asking plan asked))).text := by
    refine (standsIn_body paths h hstreams).around start ("\x7d\n" ++ "\n") fun asked => ?_
    have hasked : function paths (asking plan asked) =
        { function paths plan with body := body paths (asking plan asked) } := rfl
    simp only [Item.text, Item.lines, hasked, hfunction, String.append_assoc]
  refine htext.around (if plan.derivesMask then (fieldIdsTable plan).text else "") "" fun asked => ?_
  have hmask : (asking plan asked).derivesMask = plan.derivesMask := rfl
  have htable : fieldIdsTable (asking plan asked) = fieldIdsTable plan := rfl
  rw [text_chunk, hmask, htable, String.append_empty]

/-! ## What the enforcer is asked about -/

/-- The literals of a handler with the resource and the action of a directive. -/
structure Quotes (paths : ModulePaths) (directive : Directive) (plan : MethodPlan) (before after : String) :
    Prop where
  /-- They are the last arguments of the question to the enforcer. -/
  text : (chunk paths plan).text = before ++ questionStart (checkedOrg plan) ++
    literals directive.resource directive.action ++ after
  /-- Another resource and another action would stand in the same place. -/
  place : ∀ asked, (chunk paths (asking plan asked)).text =
    before ++ questionStart (checkedOrg plan) ++ literals asked.1 asked.2 ++ after

theorem exists_quotes {request : Request} {service : String} {classified : ClassifiedMethod} {first : Bool}
    {plan : MethodPlan} {method : MethodDecl} (paths : ModulePaths) (hmethod : classified.IsOf method)
    (hplan : MethodPlan.ofMethod request service classified first = .ok plan)
    (hasked : classified.directive.skipsEnforcement = false) :
    ∃ before after, Quotes paths classified.directive plan before after := by
  have hfollows := MethodPlan.follows_of_ofMethod hplan
  have hcheck : plan.check ≠ .off := by
    rw [Ne, MethodPlan.check_eq_off, hfollows.skips, hasked]
    exact Bool.false_ne_true
  have hstreams : plan.streamsView = true → plan.streams = true := by
    rw [hfollows.streamsView, (MethodPlan.ofMethod_eq_ok hplan).1.streams, hmethod.method]
    exact hmethod.streams
  obtain ⟨before, after, htext⟩ := standsIn_chunk paths hcheck hstreams
  have hplace : ∀ asked, (chunk paths (asking plan asked)).text =
      before ++ questionStart (checkedOrg plan) ++ literals asked.1 asked.2 ++ after := by
    intro asked
    refine (htext asked).trans ?_
    simp only [questionText, String.append_assoc]
  refine ⟨before, after, ?_, hplace⟩
  rw [← hfollows.resource, ← hfollows.action]
  exact hplace (plan.resource, plan.action)

/-- **The enforcer is asked about what the directive says exactly if that is plain.** Of every text that a
directive is read from: its components, joined by commas, are the text; and in the handler of a method
with that directive, unless enforcement is turned off, they stand in the two literals at the end of the
question to the enforcer, which denote the resource and the action if these have neither quotes nor
backslashes nor carriage returns, and something else, or nothing, if they have any. -/
theorem directive_quoted_iff {raw : String} {directive : Directive}
    (hparse : Directive.parse raw = .ok directive) :
    Text.join "," [directive.resource, directive.action, directive.orgField] = raw ∧
      ∀ (request : Request) (service : String) (method : MethodDecl) (classified : ClassifiedMethod)
        (first : Bool) (plan : MethodPlan) (paths : ModulePaths), method.rawDirective = raw →
        classify method (request.message? method.inputType) = .ok classified →
        MethodPlan.ofMethod request service classified first = .ok plan →
        directive.skipsEnforcement = false →
        ∃ before after, Quotes paths directive plan before after ∧
          (Literal.pair? (literals directive.resource directive.action ++ after).toList =
              some (directive.resource, directive.action) ↔
            (∀ c ∈ directive.resource.toList, Literal.IsPlain c) ∧
              ∀ c ∈ directive.action.toList, Literal.IsPlain c) := by
  refine ⟨Directive.join_of_parse hparse, ?_⟩
  intro request service method classified first plan paths hraw hclassify hplan hasked
  have hmethod := ClassifiedMethod.isOf_of_classify hclassify
  obtain rfl : directive = classified.directive := by
    have hdirective := hmethod.directive
    rw [hraw, hparse] at hdirective
    exact Except.ok.inj hdirective
  obtain ⟨before, after, hquotes⟩ := exists_quotes paths hmethod hplan hasked
  exact ⟨before, after, hquotes, Literal.pair?_eq_some _ _ after⟩

/-- A method that deletes widgets, with a directive. -/
def removal (raw : String) : MethodDecl :=
  ⟨"DeleteWidget", "Widget", "Result", false, false, some raw, none, none⟩

/-- A request with that method. -/
def removals (raw : String) : Request := ⟨[⟨"widget.proto", [⟨"WidgetApi", [removal raw]⟩], []⟩], [], none⟩

theorem planned_removal {raw : String} {directive : Directive} (h : Directive.parse raw = .ok directive) :
    ∃ classified plan, classify (removal raw) ((removals raw).message? "Widget") = .ok classified ∧
      MethodPlan.ofMethod (removals raw) "WidgetApi" classified true = .ok plan := by
  have hclassify : classify (removal raw) ((removals raw).message? "Widget") = .ok ⟨removal raw, directive,
      Verb.ofName "DeleteWidget", directive.isView && decide (Verb.ofName "DeleteWidget" = .view) && false⟩ := by
    show ((Directive.parse raw).bind fun directive => _) = _
    rw [h]
    rfl
  obtain ⟨plan, hplan⟩ := MethodPlan.exists_ofMethod (removals raw) "WidgetApi" ⟨removal raw, directive,
    Verb.ofName "DeleteWidget", directive.isView && decide (Verb.ofName "DeleteWidget" = .view) && false⟩ true
    (show "Widget" ≠ "" by decide) (show "Result" ≠ "" by decide)
  exact ⟨_, plan, hclassify, hplan⟩

/-- The enforcer is asked about widgets and their management. -/
theorem directive_quoted_iff_widget :
    Directive.parse "widget,ActionManage," = .ok ⟨"widget", "ActionManage", ""⟩ ∧
      ∃ plan before after, Quotes .standard ⟨"widget", "ActionManage", ""⟩ plan before after ∧
        Literal.pair? (literals "widget" "ActionManage" ++ after).toList = some ("widget", "ActionManage") := by
  have hparse : Directive.parse "widget,ActionManage," = .ok ⟨"widget", "ActionManage", ""⟩ := by
    decide +kernel
  obtain ⟨classified, plan, hclassify, hplan⟩ := planned_removal hparse
  obtain ⟨before, after, hquotes, hexact⟩ := (directive_quoted_iff hparse).2 _ _ _ _ _ _ .standard rfl
    hclassify hplan (by decide +kernel)
  have hplain : ∀ {text : String}, (text.toList.all fun c => decide (Literal.IsPlain c)) = true →
      ∀ c ∈ text.toList, Literal.IsPlain c :=
    fun h c hc => of_decide_eq_true (List.all_eq_true.mp h c hc)
  have hsame := hexact.mpr ⟨hplain (by decide +kernel), hplain (by decide +kernel)⟩
  exact ⟨hparse, plan, before, after, hquotes, hsame⟩

/-- A resource with a backslash is not what the enforcer is asked about: here it is asked about a resource
of two lines. -/
theorem escaped_resource_not_asked :
    Directive.parse "wid\\nget,ActionManage," = .ok ⟨"wid\\nget", "ActionManage", ""⟩ ∧
      ∃ plan before after, Quotes .standard ⟨"wid\\nget", "ActionManage", ""⟩ plan before after ∧
        Literal.pair? (literals "wid\\nget" "ActionManage" ++ after).toList =
          some ("wid\nget", "ActionManage") := by
  have hparse : Directive.parse "wid\\nget,ActionManage," = .ok ⟨"wid\\nget", "ActionManage", ""⟩ := by
    decide +kernel
  obtain ⟨classified, plan, hclassify, hplan⟩ := planned_removal hparse
  have hmethod := ClassifiedMethod.isOf_of_classify hclassify
  have hdirective : classified.directive = ⟨"wid\\nget", "ActionManage", ""⟩ :=
    Except.ok.inj (hmethod.directive.symm.trans hparse)
  obtain ⟨before, after, hquotes⟩ := exists_quotes .standard hmethod hplan (by rw [hdirective]; decide +kernel)
  rw [hdirective] at hquotes
  refine ⟨hparse, plan, before, after, hquotes, ?_⟩
  have hliterals : (literals "wid\\nget" "ActionManage").toList = ['"', 'w', 'i', 'd', '\\', 'n', 'g', 'e',
      't', '"', ',', ' ', '"', 'A', 'c', 't', 'i', 'o', 'n', 'M', 'a', 'n', 'a', 'g', 'e', '"'] := by
    decide +kernel
  rw [String.toList_append, hliterals]
  rfl

end RegionGateway.Handler
