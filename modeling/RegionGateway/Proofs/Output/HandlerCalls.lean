import RegionGateway.Proofs.Output.Directives
import RegionGateway.Proofs.Output.HandlerText
import RegionGateway.Proofs.Rust.MethodCalls

/-!
# Calls in handlers

The calls of methods on variables that the text of a handler contains: one of the backend, and those of the
enforcer that its plan says (`methodCalls_trees`).
-/

namespace RegionGateway.Handler

open Rust
open Rust.TokenTree (word mark)

/-! ## Calls -/

/-- The guard of the check of the input: an internal caller is not checked. -/
def guarded : List (List TokenTree) := [[word "if", mark '!', word "rc", mark '.', word "skip_authz"], []]

/-- A statement that returns with an error. -/
def refusal (error : List TokenTree) : TokenTree :=
  .group .curly [word "return", word "Err", .group .round error, mark ';']

def gatewayError (name : String) : List TokenTree := [word "GatewayError", mark ':', mark ':', word name]

/-- The arguments of a question to the enforcer. -/
def questionArguments (org : List TokenTree) (resource action : String) : List (List TokenTree) :=
  [[mark '&', word "rc", mark '.', word "username"], org, [.leaf (.literal resource)],
    [.leaf (.literal action)]]

/-- The enforcer is asked about the input, and the caller is refused unless it agrees. -/
def inputQuestion (org : List TokenTree) (resource action : String) : Call where
  within := guarded
  before := [word "if", mark '!']
  object := "enforcer"
  method := "enforce"
  arguments := questionArguments org resource action
  after := [refusal (gatewayError "Forbidden")]

/-- The enforcer is asked about a streamed item, in the filter that is passed to `serve_stream`. -/
def itemQuestion (item : String) (type org : List TokenTree) (resource action : String) : Call where
  within := [[mark '|', word item, mark ':', mark '&'] ++ type ++ [mark '|'], [word "serve_stream"], []]
  before := [word "rc", mark '.', word "skip_authz", mark '|', mark '|']
  object := "enforcer"
  method := "enforce"
  arguments := questionArguments org resource action
  after := []

/-- The trees of a place in the input. -/
def placeTrees (names : List String) : List TokenTree := [word "obj", mark '.'] ++ pathTrees names

/-- The enforcer is asked whether an organization exists, and the caller is refused unless it does. -/
def existenceQuestion (names : List String) : Call where
  within := guarded
  before := [word "if", mark '!']
  object := "enforcer"
  method := "org_exists"
  arguments := [orgTrees "obj" (some names)]
  after := [refusal (gatewayError "OrgNotFound" ++
    [.group .round (placeTrees names ++ [mark '.', word "to_string", .group .round []])])]

/-- The backend is called. -/
def backendAnswer (function : String) (streams : Bool) : Call where
  within := if streams then [[word "serve_stream"], []] else [[]]
  before := if streams then [] else [word "let", word "resp", mark '=']
  object := "backend"
  method := function
  arguments := [[mark '&', word "rc"], [word "obj"]]
  after := [mark '.', word "await"] ++ if streams then [] else [mark '?']

variable {paths : ModulePaths} {plan : MethodPlan} {org required : Option (List String)}

/-! ## Before the body -/

/-- Trees after which a statement begins, without calls. -/
structure Silent (within : List (List TokenTree)) (trees : List TokenTree) : Prop where
  calls : ∀ after, allMethodCalls within [] after trees = []
  ended : trees.foldl advance [] = []

theorem Silent.allMethodCalls_append {within : List (List TokenTree)} {xs : List TokenTree}
    (h : Silent within xs) (ys after : List TokenTree) :
    allMethodCalls within [] after (xs ++ ys) = allMethodCalls within [] after ys := by
  rw [Rust.allMethodCalls_append, h.calls, h.ended, List.nil_append]

theorem Silent.append {within : List (List TokenTree)} {xs ys : List TokenTree} (hxs : Silent within xs)
    (hys : Silent within ys) : Silent within (xs ++ ys) where
  calls after := by rw [hxs.allMethodCalls_append, hys.calls]
  ended := by rw [List.foldl_append, hxs.ended, hys.ended]

theorem silent_flatMap {α : Type} {within : List (List TokenTree)} {trees : α → List TokenTree} {as : List α}
    (h : ∀ a ∈ as, Silent within (trees a)) : Silent within (as.flatMap trees) := by
  induction as with
  | nil => exact ⟨fun _ => rfl, rfl⟩
  | cons a as ih =>
      obtain ⟨hfirst, hrest⟩ := List.forall_mem_cons.mp h
      exact hfirst.append (ih hrest)

theorem silent_table (h : Named paths plan org required) (within : List (List TokenTree)) :
    Silent within (tableTrees plan) := by
  have hrows : ∀ within, Silent within ((fieldRows plan).flatMap fun row => row.2.trees ++ [mark ',']) := by
    intro within
    refine silent_flatMap ?_
    rw [fieldRows, List.forall_mem_map]
    exact fun entry _ => ⟨fun _ => rfl, rfl⟩
  have hname := treesOf_name (isName_word h.isWord_fieldIdsName)
  have htrees : tableTrees plan = [word "const", word plan.fieldIdsName, mark ':', mark '&',
      .group .square [.group .round [mark '&', word "str", mark ',', mark '&', word "str"]], mark '=', mark '&',
      .group .square ((fieldRows plan).flatMap fun row => row.2.trees ++ [mark ',']), mark ';'] := by
    rw [tableTrees, Item.tableTrees, hname]
    rfl
  rw [htrees]
  refine ⟨fun after => ?_, rfl⟩
  show allMethodCalls _ [] [] ((fieldRows plan).flatMap fun row => row.2.trees ++ [mark ',']) ++ [] = []
  rw [(hrows _).calls]
  rfl

theorem parameterTrees_function : (function paths plan).parameters.flatMap parameterTrees =
    [word "backend", mark ':', mark '&', word "B", mark ',',
      word (if plan.check = .off then "_enforcer" else "enforcer"), mark ':', mark '&', word "dyn",
      word "Enforcer", mark ',', word "mut", word "rc", mark ':', word "RegionContext", mark ',', word "body",
      mark ':', mark '&', .group .square [word "u8"], mark ',', word "sink", mark ':', mark '&', word "mut",
      word "dyn", word "ResponseSink", mark ','] := by
  have henforcer : IsWord (if plan.check = .off then "_enforcer" else "enforcer") := by split <;> decide
  have hcaller : treesOf "mut rc" = [word "mut", word "rc"] := rfl
  simp (disch := decide) only [function, requestParameters, List.cons_append, List.nil_append,
    List.flatMap_cons, List.flatMap_nil, parameterTrees, Ty.trees, treesOf_word henforcer, treesOf_word, hcaller]

/-- What stands before the body of a handler. -/
def headTrees (paths : ModulePaths) (plan : MethodPlan) : List TokenTree :=
  [word "pub", word "async", word "fn", word plan.functionName, mark '<', word "B", mark '>',
    .group .round ((function paths plan).parameters.flatMap parameterTrees), mark '-', mark '>', word "Result",
    mark '<', .group .round [], mark ',', word "GatewayError", mark '>', word "where", word "B", mark ':',
    word plan.service, mark '+', mark '?', word "Sized", mark ',']

theorem trees_function (h : Named paths plan org required) : (function paths plan).trees =
    headTrees paths plan ++ [.group .curly (Stmt.allTrees (body paths plan))] := by
  have hresult : Function.resultTrees (some outcome) = [mark '-', mark '>', word "Result", mark '<',
      .group .round [], mark ',', word "GatewayError", mark '>'] := by
    simp (disch := decide) only [Function.resultTrees, outcome, Ty.unit, Ty.trees, Ty.allTrees, separated,
      treesOf_word, List.cons_append, List.nil_append]
  have hbounds : Function.boundTrees (some [plan.service]) = [word "where", word "B", mark ':',
      word plan.service, mark '+', mark '?', word "Sized", mark ','] := by
    simp only [Function.boundTrees, List.map_cons, List.map_nil, separated, treesOf_word h.service,
      List.cons_append, List.nil_append]
  have hparts : (function paths plan).trees = [word "pub", word "async", word "fn"] ++
      treesOf plan.functionName ++ [mark '<', word "B", mark '>'] ++
      [.group .round ((function paths plan).parameters.flatMap parameterTrees)] ++
      Function.resultTrees (some outcome) ++ Function.boundTrees (some [plan.service]) ++
      [.group .curly (Stmt.allTrees (body paths plan))] := rfl
  rw [hparts, hresult, hbounds, treesOf_name h.functionName]
  rfl

theorem silent_head (within : List (List TokenTree)) : Silent within (headTrees paths plan) := by
  refine ⟨fun after => ?_, rfl⟩
  unfold headTrees
  rw [parameterTrees_function]
  -- the parameter of the enforcer has two names, and neither of them is called here
  generalize (if plan.check = .off then "_enforcer" else "enforcer") = enforcer
  rfl

/-- The calls in a handler are those in its body. -/
theorem methodCalls_trees_eq (h : Named paths plan org required) :
    methodCalls (trees paths plan) = allMethodCalls [[]] [] [] (Stmt.allTrees (body paths plan)) := by
  have hblock : ∀ inside, allMethodCalls [] [] [] [.group .curly inside] = allMethodCalls [[]] [] [] inside :=
    fun inside => List.append_nil _
  unfold methodCalls trees
  rw [trees_function h]
  split
  · rw [(silent_table h []).allMethodCalls_append, (silent_head []).allMethodCalls_append, hblock]
  · rw [List.nil_append, (silent_head []).allMethodCalls_append, hblock]

/-! ## The body -/

theorem silent_opening (h : Named paths plan org required) (within : List (List TokenTree)) :
    Silent within (Stmt.allTrees (opening paths plan)) := by
  have hmutable : treesOf "mut input" = [word "mut", word "input"] := rfl
  have hborrowed : treesOf "&mut input" = [mark '&', word "mut", word "input"] := rfl
  have hregion : treesOf "rc.region" = [word "rc", mark '.', word "region"] := rfl
  have hsent : treesOf "input.region" = [word "input", mark '.', word "region"] := rfl
  have hdecode : Silent within (Stmt.trees (.bind (if plan.derivesMask then "mut input" else "input")
      (some (.inModule (localName paths.wrappers) plan.wrapper))
      (.propagate (callOn "decode_request" ["body"])))) := by
    simp (disch := decide) only [Stmt.trees, callOn, List.map_cons, List.map_nil, Expr.trees, Ty.trees,
      Expr.allTrees, separated, treesOf_name h.wrappers, treesOf_word h.isWord_wrapper, treesOf_word]
    split
    · rw [hmutable]
      exact ⟨fun _ => rfl, rfl⟩
    · rw [treesOf_word (by decide)]
      exact ⟨fun _ => rfl, rfl⟩
  have hregion : Silent within (Stmt.trees (.assign "rc.region"
      (.method (.place "input.region") "clone" []))) := by
    simp (disch := decide) only [Stmt.trees, Expr.trees, Expr.allTrees, separated, hregion, hsent, treesOf_word]
    exact ⟨fun _ => rfl, rfl⟩
  have hmask : Silent within (Stmt.trees (.run (.propagate
      (callOn "set_region_obj_fields" ["body", "&mut input", plan.fieldIdsName])))) := by
    simp (disch := decide) only [Stmt.trees, callOn, List.map_cons, List.map_nil, Expr.trees, Expr.allTrees,
      separated, treesOf_word h.isWord_fieldIdsName, treesOf_word, hborrowed]
    exact ⟨fun _ => rfl, rfl⟩
  have hobject : Silent within (Stmt.trees (.bind "obj" none
      (.borrow false (.place ("input." ++ plan.wrapperField))))) := by
    simp (disch := decide) only [Stmt.trees, Expr.trees, h.read_wrapperField.1, treesOf_word]
    exact ⟨fun _ => rfl, rfl⟩
  have hnone : Silent within [] := ⟨fun _ => rfl, rfl⟩
  unfold opening
  rw [Stmt.allTrees_append, Stmt.allTrees_append]
  refine (Silent.append ?_ ?_).append ?_
  · exact hdecode.append (hregion.append hnone)
  · split
    · exact hmask.append hnone
    · exact hnone
  · exact hobject.append hnone

/-- The caller is refused unless a call of a method on a variable gives its consent. -/
theorem calls_refuseUnless {within : List (List TokenTree)} {object method : String} {arguments : List Expr}
    {error : Expr} (hobject : IsWord object) (hmethod : IsWord method)
    (harguments : ∀ part ∈ Expr.allTrees arguments, IsArgument part)
    (herror : ∀ within, allMethodCalls within [] [] error.trees = []) (rest after : List TokenTree) :
    allMethodCalls within [] after
        ((Stmt.whenTrue (.negate (.method (.place object) method arguments)) [refuse error] []).trees ++ rest) =
      ⟨within, [word "if", mark '!'], object, method, Expr.allTrees arguments, [refusal error.trees]⟩ ::
        allMethodCalls within [] after rest := by
  have htrees : (Stmt.whenTrue (.negate (.method (.place object) method arguments)) [refuse error] []).trees =
      [word "if", mark '!'] ++ (Expr.method (.place object) method arguments).trees ++
        [refusal error.trees] := by
    simp (disch := decide) only [Stmt.trees, Stmt.allTrees, refuse, Expr.trees, Expr.allTrees, separated,
      refusal, treesOf_word, List.cons_append, List.nil_append]
  have hrefusal : ∀ before after, allMethodCalls within before after [refusal error.trees] = [] := by
    intro before after
    show allMethodCalls _ [] [] error.trees ++ [] ++ [] = []
    rw [herror]
    rfl
  have hstart : ∀ after, allMethodCalls within [] after [word "if", mark '!'] = [] := fun _ => rfl
  rw [htrees, List.append_assoc, List.append_assoc, allMethodCalls_append, hstart, allMethodCalls_append,
    allMethodCalls_method (treesOf_word hobject) (treesOf_word hmethod) harguments rfl, allMethodCalls_append,
    hrefusal]
  rfl

theorem isArgument_org (h : ∀ names ∈ org, ArePathNames names) (object : String) :
    IsArgument (orgTrees object org) := by
  cases org with
  | none => exact isArgument_of_all rfl
  | some names => exact (isArgument_of_all rfl).append_path names

theorem areArguments_question {trees : List TokenTree} (h : IsArgument trees) (resource action : String) :
    ∀ part ∈ questionArguments trees resource action, IsArgument part := by
  simp only [questionArguments, List.forall_mem_cons]
  exact ⟨isArgument_of_all rfl, h, isArgument_of_all rfl, isArgument_of_all rfl, nofun⟩

theorem questionArguments_eq (plan : MethodPlan) {asked : String} {trees : List TokenTree}
    (h : treesOf asked = trees) :
    Expr.allTrees [.place "&rc.username", .place asked, .literal plan.resource, .literal plan.action] =
      questionArguments trees plan.resource plan.action := by
  have huser : treesOf "&rc.username" = [mark '&', word "rc", mark '.', word "username"] := rfl
  simp only [Expr.allTrees, Expr.trees, questionArguments, huser, h]

theorem isArgument_place (names : List String) : IsArgument (placeTrees names) :=
  (isArgument_of_all rfl).append_path names

theorem trees_orgNotFound {names : List String} (h : ArePathNames names) :
    (Expr.call "GatewayError::OrgNotFound"
      [.method (.place ("obj." ++ Text.join "." names)) "to_string" []]).trees =
    gatewayError "OrgNotFound" ++
      [.group .round (placeTrees names ++ [mark '.', word "to_string", .group .round []])] := by
  have herror : treesOf "GatewayError::OrgNotFound" = gatewayError "OrgNotFound" := rfl
  simp (disch := decide) only [Expr.trees, Expr.allTrees, separated, herror, (read_place h).1, placeTrees,
    treesOf_word, List.append_assoc, List.cons_append, List.nil_append]

/-- What is said about an organization that does not exist is not a call on a variable. -/
theorem calls_orgNotFound {names : List String} (h : ArePathNames names) (within : List (List TokenTree)) :
    allMethodCalls within [] [] (gatewayError "OrgNotFound" ++
      [.group .round (placeTrees names ++ [mark '.', word "to_string", .group .round []])]) = [] := by
  -- what stands before `to_string` is a path of at least one name below `obj`, so it is not a variable
  obtain ⟨last, more, hreverse⟩ := exists_reverse_path h.1 [word "obj"]
  have hplace : (placeTrees names).reverse ++ [] = word last :: mark '.' :: more := by
    rw [← hreverse, placeTrees, List.reverse_append]
    simp
  show allMethodCalls _ [] [] (placeTrees names ++ [mark '.', word "to_string", .group .round []]) ++ [] = []
  rw [allMethodCalls_append, (isArgument_place names).allMethodCalls, (isArgument_place names).foldl_advance,
    hplace]
  rfl

variable {within : List (List TokenTree)}

theorem calls_requireOrg {names : List String} (h : ArePathNames names) (rest after : List TokenTree) :
    allMethodCalls guarded [] after ((requireOrg (Text.join "." names)).trees ++ rest) =
      existenceQuestion names :: allMethodCalls guarded [] after rest := by
  have harguments : Expr.allTrees [.borrow false (.place ("obj." ++ Text.join "." names))] =
      [orgTrees "obj" (some names)] := by
    simp only [Expr.allTrees, Expr.trees, (read_place h).1]
    rfl
  have hargument : IsArgument (orgTrees "obj" (some names)) := isArgument_org (by simpa using h) "obj"
  unfold requireOrg
  dsimp only
  rw [calls_refuseUnless (by decide) (by decide) (by simpa [harguments] using hargument), harguments,
    trees_orgNotFound h]
  · rfl
  · intro within
    rw [trees_orgNotFound h]
    exact calls_orgNotFound h within

theorem calls_inputQuestion (h : Named paths plan org required) (rest after : List TokenTree) :
    allMethodCalls guarded [] after ((Stmt.whenTrue (.negate (question plan plan.inputOrg))
        [refuse (.place "GatewayError::Forbidden")] []).trees ++ rest) =
      inputQuestion (orgTrees "obj" org) plan.resource plan.action :: allMethodCalls guarded [] after rest := by
  have harguments := questionArguments_eq plan h.read_inputOrg.1
  have herror : (Expr.place "GatewayError::Forbidden").trees = gatewayError "Forbidden" :=
    show treesOf "GatewayError::Forbidden" = gatewayError "Forbidden" from rfl
  unfold question
  rw [calls_refuseUnless (by decide) (by decide)
    (harguments ▸ areArguments_question (isArgument_org h.orgNames "obj") plan.resource plan.action),
    harguments, herror]
  · rfl
  · intro within
    rw [herror]
    rfl

/-- The statements under the guard of the check. -/
def guardedStatements (plan : MethodPlan) : List Stmt :=
  (plan.requiredOrg.map requireOrg).toList ++
    [.whenTrue (.negate (question plan plan.inputOrg)) [refuse (.place "GatewayError::Forbidden")] []]

theorem calls_guardedStatements (h : Named paths plan org required) :
    allMethodCalls guarded [] [] (Stmt.allTrees (guardedStatements plan)) =
      (required.map existenceQuestion).toList ++
        [inputQuestion (orgTrees "obj" org) plan.resource plan.action] := by
  have hquestion := calls_inputQuestion h [] []
  unfold guardedStatements
  rw [h.requiredOrg, Stmt.allTrees_append]
  cases hrequired : required with
  | none => exact hquestion
  | some names =>
      have hexists := calls_requireOrg (h.requiredNames names hrequired)
      simp only [Option.map_some, Option.toList_some, Stmt.allTrees, List.append_nil, hexists]
      rw [← List.append_nil (Stmt.trees _), hquestion]
      rfl

theorem calls_inputCheck (h : Named paths plan org required) (hcheck : plan.check = .input)
    (rest : List TokenTree) : allMethodCalls [[]] [] [] (Stmt.allTrees (inputCheck plan) ++ rest) =
      (required.map existenceQuestion).toList ++
        [inputQuestion (orgTrees "obj" org) plan.resource plan.action] ++ allMethodCalls [[]] [] [] rest := by
  have htrees : Stmt.allTrees (inputCheck plan) = [word "if", mark '!', word "rc", mark '.', word "skip_authz",
      .group .curly (Stmt.allTrees (guardedStatements plan))] := by
    have hskip : treesOf "rc.skip_authz" = [word "rc", mark '.', word "skip_authz"] := rfl
    unfold inputCheck
    rw [hcheck]
    simp only [Stmt.allTrees, Stmt.trees, Expr.trees, hskip, guardedStatements, List.cons_append,
      List.nil_append]
  rw [htrees, ← calls_guardedStatements h]
  rfl

/-- The call of the backend up to the end of its arguments. -/
def backendRequest (plan : MethodPlan) : Expr :=
  .method (.place "backend") plan.functionName [.place "&rc", .place "obj"]

theorem calls_backendRequest (h : Named paths plan org required) {before : List TokenTree}
    (hbefore : before.head?.any (·.isMark '.') = false) (after : List TokenTree) :
    allMethodCalls within before after (backendRequest plan).trees =
      [⟨within, before.reverse, "backend", plan.functionName, [[mark '&', word "rc"], [word "obj"]],
        remainder after⟩] := by
  have harguments : Expr.allTrees [.place "&rc", .place "obj"] = [[mark '&', word "rc"], [word "obj"]] := by
    have hcaller : treesOf "&rc" = [mark '&', word "rc"] := rfl
    simp (disch := decide) only [Expr.allTrees, Expr.trees, hcaller, treesOf_word]
  have hparts : ∀ part ∈ [[mark '&', word "rc"], [word "obj"]], IsArgument part := by
    simp only [List.forall_mem_cons]
    exact ⟨isArgument_of_all rfl, isArgument_of_all rfl, nofun⟩
  unfold backendRequest
  rw [allMethodCalls_method (treesOf_word (by decide)) (treesOf_name h.functionName) (harguments ▸ hparts)
    hbefore, harguments]

theorem calls_reply (h : Named paths plan org required) (hstreams : plan.streams = false) :
    allMethodCalls [[]] [] [] (Stmt.allTrees (serve paths plan)) = [backendAnswer plan.functionName false] := by
  have hborrowed : treesOf "&resp" = [mark '&', word "resp"] := rfl
  have htrees : Stmt.allTrees (serve paths plan) = [word "let", word "resp", mark '='] ++
      ((backendRequest plan).trees ++ [mark '.', word "await", mark '?', mark ';', word "reply_json",
        .group .round [word "sink", mark ',', mark '&', word "resp"]]) := by
    unfold serve
    rw [hstreams]
    simp (disch := decide) only [Bool.false_eq_true, if_false, Stmt.allTrees, Stmt.trees, Expr.trees,
      Expr.allTrees, backendCall, callOn, List.map_cons, List.map_nil, separated, hborrowed, treesOf_word,
      backendRequest, List.append_assoc, List.cons_append, List.nil_append, List.append_nil]
  have hlet : ∀ after, allMethodCalls [[]] [] after [word "let", word "resp", mark '='] = [] := fun _ => rfl
  rw [htrees, allMethodCalls_append, hlet, allMethodCalls_append, calls_backendRequest h rfl]
  rfl

/-- What stands before the filter of streamed items. -/
def filterHead (item : String) (type : List TokenTree) : List TokenTree :=
  [mark '|', word item, mark ':', mark '&'] ++ type ++ [mark '|']

/-- The trees of the type of streamed items. -/
def itemType (paths : ModulePaths) (plan : MethodPlan) : List TokenTree :=
  [word (localName paths.messages), mark ':', mark ':', word plan.outputType]

theorem calls_stream (h : Named paths plan org required) (hstreams : plan.streams = true) :
    allMethodCalls [[]] [] [] (Stmt.allTrees (serve paths plan)) = backendAnswer plan.functionName true ::
      allMethodCalls [filterHead (itemName plan) (itemType paths plan), [word "serve_stream"], []] [] []
        (itemFilter plan).trees := by
  have hitem : treesOf (itemName plan) = [word (itemName plan)] := by
    refine treesOf_word ?_
    unfold itemName
    split <;> decide
  have htrees : Stmt.allTrees (serve paths plan) = [word "serve_stream",
      .group .round ([word "sink", mark ','] ++ ((backendRequest plan).trees ++
        ([mark '.', word "await", mark ','] ++
          (filterHead (itemName plan) (itemType paths plan) ++ [.group .curly (itemFilter plan).trees])))),
      mark '.', word "await"] := by
    unfold serve
    rw [if_pos hstreams]
    simp (disch := decide) only [Stmt.allTrees, Stmt.trees, Expr.trees, Expr.allTrees,
      backendCall, separated, treesOf_word, backendRequest, hitem, ModulePaths.messageType, Ty.trees,
      treesOf_name h.messages, treesOf_word h.outputType, filterHead, itemType,
      List.append_assoc, List.cons_append, List.nil_append, List.append_nil]
  -- the filter is the last group of the arguments, with the head of the closure before it
  have hfilter : ∀ before inside, allMethodCalls [[word "serve_stream"], []] before []
      ([mark '.', word "await", mark ','] ++
        (filterHead (itemName plan) (itemType paths plan) ++ [.group .curly inside])) =
      allMethodCalls [filterHead (itemName plan) (itemType paths plan), [word "serve_stream"], []] [] []
        inside :=
    fun before inside => List.append_nil _
  have hsink : ∀ after, allMethodCalls [[word "serve_stream"], []] [] after [word "sink", mark ','] = [] :=
    fun _ => rfl
  have hserve : ∀ inside, allMethodCalls [[]] [] []
      [word "serve_stream", .group .round inside, mark '.', word "await"] =
      allMethodCalls [[word "serve_stream"], []] [] [] inside := fun inside => List.append_nil _
  have hsunk : [word "sink", mark ','].foldl advance [] = [] := rfl
  rw [htrees, hserve, allMethodCalls_append, hsink, hsunk, allMethodCalls_append, calls_backendRequest h rfl,
    hfilter, List.nil_append, List.singleton_append]
  exact congrArg (· :: _) rfl

theorem calls_itemFilter (h : Named paths plan org required) (hcheck : plan.check = .items) :
    allMethodCalls within [] [] (itemFilter plan).trees =
      [⟨within, [word "rc", mark '.', word "skip_authz", mark '|', mark '|'], "enforcer", "enforce",
        questionArguments (orgTrees "res" org) plan.resource plan.action, []⟩] := by
  have harguments := questionArguments_eq plan h.read_itemOrg.1
  have hskip : treesOf "rc.skip_authz" = [word "rc", mark '.', word "skip_authz"] := rfl
  have htrees : (itemFilter plan).trees = [word "rc", mark '.', word "skip_authz", mark '|', mark '|'] ++
      (question plan plan.itemOrg).trees := by
    unfold itemFilter
    rw [hcheck]
    simp only [Expr.trees, hskip, List.cons_append, List.nil_append]
  have hstart : ∀ after, allMethodCalls within [] after
      [word "rc", mark '.', word "skip_authz", mark '|', mark '|'] = [] := fun _ => rfl
  unfold question at htrees
  rw [htrees, allMethodCalls_append, hstart, allMethodCalls_method (treesOf_word (by decide))
    (treesOf_word (by decide))
    (harguments ▸ areArguments_question (isArgument_org h.orgNames "res") plan.resource plan.action) rfl,
    harguments]
  rfl

theorem calls_serve (h : Named paths plan org required) (hcheck : plan.check ≠ .items) :
    allMethodCalls [[]] [] [] (Stmt.allTrees (serve paths plan)) =
      [backendAnswer plan.functionName plan.streams] := by
  cases hstreams : plan.streams with
  | false => exact calls_reply h hstreams
  | true =>
      have hfilter : itemFilter plan = .place "true" := by
        unfold itemFilter
        split
        · next hitems => exact absurd hitems hcheck
        · rfl
      have htrees : (Expr.place "true").trees = [word "true"] := treesOf_word (by decide)
      rw [calls_stream h hstreams, hfilter, htrees]
      rfl

/-- The calls in a handler: the backend is called, and the enforcer is asked what the plan says. -/
theorem methodCalls_trees (h : Named paths plan org required)
    (hstreams : plan.streamsView = true → plan.streams = true) :
    methodCalls (trees paths plan) = match plan.check with
      | .off => [backendAnswer plan.functionName plan.streams]
      | .input => (required.map existenceQuestion).toList ++
          [inputQuestion (orgTrees "obj" org) plan.resource plan.action,
            backendAnswer plan.functionName plan.streams]
      | .items => [backendAnswer plan.functionName plan.streams,
          itemQuestion (itemName plan) (itemType paths plan) (orgTrees "res" org) plan.resource
            plan.action] := by
  rw [methodCalls_trees_eq h, body_eq, Stmt.allTrees_append, Stmt.allTrees_append, List.append_assoc,
    (silent_opening h _).allMethodCalls_append]
  cases hcheck : plan.check with
  | off =>
      have hnone : inputCheck plan = [] := by
        rw [inputCheck, hcheck]
      rw [hnone]
      exact calls_serve h (by rw [hcheck]; exact nofun)
  | input =>
      rw [calls_inputCheck h hcheck, calls_serve h (by rw [hcheck]; exact nofun), List.append_assoc]
      rfl
  | items =>
      have hnone : inputCheck plan = [] := by
        rw [inputCheck, hcheck]
      have hstreams := hstreams (MethodPlan.streamsView_of_check hcheck)
      rw [hnone, hstreams]
      refine (calls_stream h hstreams).trans ?_
      rw [calls_itemFilter h hcheck]
      rfl

end RegionGateway.Handler
