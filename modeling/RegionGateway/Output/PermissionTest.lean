import RegionGateway.Interface.Route
import RegionGateway.Output.Chunk
import RegionGateway.Output.MethodPlan

/-!
# Permission tests

Each method gets four checks: it is forbidden for a foreign organization, it fails with a given
status, it succeeds for the caller's own organization, and it fails in an unknown region. Each
message that wants tests gets a matrix of two users with an organization each: either may change the
objects of their own organization only, and sees no others.
-/

namespace RegionGateway

open Rust

/-- The permission tests of one message of a service. -/
structure MessageTests where
  message : String
  /-- What the names of the test functions end in. -/
  suffix : String
  /-- The methods checked on their input, in the order in which they run. -/
  guarded : List MethodPlan
  /-- The methods that stream views. -/
  views : List MethodPlan
  deriving DecidableEq

namespace MessageTests

/-- Whether tests are generated for the input of a method. -/
def wanted (request : Request) (inputs : InputIndex) (plan : MethodPlan) : Bool :=
  inputs.isInput plan.inputType && (request.message? plan.inputType).any (·.isTestEligible)

/-- The tests of a message before any method is added. The service is part of the suffix if other
services take the message too. -/
def opened (service : String) (inputs : InputIndex) (message : String) : MessageTests :=
  ⟨message, snakeCase (if inputs.isShared message then service ++ message else message), [], []⟩

/-- Adds a method to the tests of its input. -/
def add (plan : MethodPlan) (tests : MessageTests) : MessageTests :=
  if plan.streamsView then { tests with views := tests.views ++ [plan] }
  else { tests with guarded := tests.guarded ++ [plan] }

/-- Adds a method to the group of its input, which is opened at the end if there is none. -/
def place (service : String) (inputs : InputIndex) (plan : MethodPlan) :
    List MessageTests → List MessageTests
  | [] => [add plan (opened service inputs plan.inputType)]
  | tests :: rest =>
    if tests.message = plan.inputType then add plan tests :: rest
    else tests :: place service inputs plan rest

/-- Sorts what is checked on the input. -/
def inRunOrder (tests : MessageTests) : MessageTests :=
  { tests with guarded := sortByRunOrder MethodPlan.method tests.guarded }

/-- The tests of a service, one group for each message that wants tests, by first use: the methods are
placed one after the other, and the groups are sorted at the end. -/
def ofService (request : Request) (inputs : InputIndex) (service : ServicePlan) :
    List MessageTests :=
  (service.methods.foldl (fun groups plan =>
    if wanted request inputs plan then place service.name inputs plan groups else groups)
    []).map inRunOrder

end MessageTests

namespace PermissionTest

/-- A region that no test environment serves. -/
def unknownRegion : String := "nope"

/-- A panic with a message that begins with a method's name. -/
def panic (plan : MethodPlan) (text : String) : Expr := .call "panic!" [.literal (plan.method ++ text)]

/-- Fails unless the error has a status. -/
def expectStatus (plan : MethodPlan) (status : String) : Stmt :=
  .run (.call "assert_eq!" [.method (.place "err") "status" [], .place status,
    .literal (plan.method ++ ": \x7berr\x7d")])

/-- Fails unless the text of the error contains a text. -/
def expectText (plan : MethodPlan) (text : String) : Stmt :=
  .run (.call "assert!" [.method (.method (.place "err") "to_string" []) "contains" [.literal text],
    .literal (plan.method ++ ": \x7berr\x7d")])

/-- The call of the helper that sends an input for an organization. -/
def helperCall (paths : ModulePaths) (plan : MethodPlan) (region modifiers : Expr) : Expr :=
  .await (.call (localName paths.testHelpers ++ "::test_perm_" ++ plan.functionName)
    [.place "transport", .place "uri", .place "token", region, .place "org", modifiers])

/-- Calls the helper and goes on with its error, which there must be. -/
def expectError (paths : ModulePaths) (plan : MethodPlan) (region : Expr) (complaint : String) :
    List Stmt :=
  [.bind "res" none (helperCall paths plan region (.place "mod_funcs")),
    .bindElse "Err(err)" (.place "res") [.run (panic plan complaint)]]

/-- A test function of a message type, given its parameters between the token and the functions that
change the input. -/
def testFunction (doc name : String) (between : List String) (more : Parameters) (body : List Stmt) :
    Item :=
  .function {
    docs := [doc]
    attributes := []
    name := name
    parameters := callerParameters ++ between.map (·, Ty.str) ++ more
    result := none
    bounds := none
    body := body
  }

/-- The method is forbidden for an organization. -/
def forbidden (paths : ModulePaths) (plan : MethodPlan) : Item :=
  testFunction ("`" ++ plan.method ++ "` on an object of `org` must be forbidden.")
    ("bad_perm_" ++ plan.functionName) ["region", "org"]
    [modifiersParameter paths plan.inputType "mod_funcs"]
    (expectError paths plan (.place "region") " for org \x7borg\x7d should be forbidden" ++
      [expectText plan "Forbidden", expectStatus plan "403"])

/-- The method fails with a status. -/
def failing (paths : ModulePaths) (plan : MethodPlan) : Item :=
  testFunction ("`" ++ plan.method ++ "` on an object of `org` must fail with `status`.")
    ("bad_" ++ plan.functionName) ["region", "org"]
    [("status", .name "u16"), modifiersParameter paths plan.inputType "mod_funcs"]
    (expectError paths plan (.place "region") " for org \x7borg\x7d should fail" ++
      [expectStatus plan "status"])

/-- The method succeeds for an organization. -/
def succeeding (paths : ModulePaths) (plan : MethodPlan) : Item :=
  testFunction ("`" ++ plan.method ++ "` on an object of `org` must succeed.")
    ("good_perm_" ++ plan.functionName) ["region", "org"]
    [modifiersParameter paths plan.inputType "mod_funcs"]
    [.whenMatches "Err(err)" (helperCall paths plan (.place "region") (.place "mod_funcs"))
      [.run (panic plan " for org \x7borg\x7d: \x7berr\x7d")]]

/-- The method fails in an unknown region: it is forbidden there, or the region is not found. -/
def failingInRegion (paths : ModulePaths) (plan : MethodPlan) : Item :=
  testFunction ("`" ++ plan.method ++ "` in an unknown region must fail.")
    ("bad_region_" ++ plan.functionName) ["org"]
    [modifiersParameter paths plan.inputType "mod_funcs"]
    (expectError paths plan (.literal unknownRegion) (" in region " ++ unknownRegion ++ " should fail") ++
      [.whenTrue (.equal (.method (.place "err") "to_string" []) (.literal "Forbidden"))
        [expectStatus plan "403"]
        [expectText plan ("\\\"" ++ unknownRegion ++ "\\\" not found"), expectStatus plan "400"]])

/-- The modules and symbols that tests refer to. -/
def uses (paths : ModulePaths) : List Use :=
  paths.uses [paths.messages, paths.testHelpers] ["ApiTransport", "ModFn"]

/-- The checks of a method. -/
def chunk (paths : ModulePaths) (plan : MethodPlan) : Chunk :=
  ⟨uses paths,
    [forbidden paths plan, failing paths plan, succeeding paths plan, failingInRegion paths plan]⟩

/-- Waits for a test function. -/
def runTest (name : String) (arguments : List String) : Stmt := .run (.await (callOn name arguments))

/-- The arguments with which a test of one user is called. -/
def userArguments : List String := ["transport", "uri", "token", "region", "org"]

/-- Shows the objects of the organization by every view and counts them; then, if it is asked for,
shows them in an unknown region. -/
def showChecks (paths : ModulePaths) (count : String) (unknownRegionToo : Bool) :
    Nat → List MethodPlan → List Stmt
  | _, [] => []
  | n, plan :: rest =>
    let list := "list" ++ String.ofList (Nat.toDigits 10 n)
    [.bind list none (.choice (helperCall paths plan (.place "region") (.place "&[]"))
        [("Ok(list)", .place "list"), ("Err(err)", panic plan " for org \x7borg\x7d: \x7berr\x7d")]),
      .run (.call "assert_eq!" [.method (.place list) "len" [], .place count,
        .literal (plan.method ++ " for org \x7borg\x7d")])] ++
      (if unknownRegionToo then
        [runTest ("bad_region_" ++ plan.functionName) ["transport", "uri", "token", "org", "&[]"]]
       else []) ++
      showChecks paths count unknownRegionToo (n + 1) rest

/-- No method changes objects of a foreign organization. -/
def foreignChanges (paths : ModulePaths) (tests : MessageTests) : Item :=
  testFunction "The caller must not modify objects of `org`, an organization it has no permissions for."
    ("bad_perm_test_" ++ tests.suffix) ["region", "org"]
    [modifiersParameter paths tests.message "mod_funcs"]
    (tests.guarded.map fun plan =>
      runTest ("bad_perm_" ++ plan.functionName) (userArguments ++ ["mod_funcs"]))

/-- No view shows objects of a foreign organization. -/
def foreignViews (paths : ModulePaths) (tests : MessageTests) : Item :=
  testFunction "Showing objects of `org` is allowed but returns nothing."
    ("bad_perm_test_show_" ++ tests.suffix) ["region", "org"] []
    (showChecks paths "0" false 0 tests.views)

/-- Every method changes objects of the own organization, and none in an unknown region. -/
def ownChanges (paths : ModulePaths) (tests : MessageTests) : Item :=
  let modifiers := if tests.guarded.isEmpty then "_mod_funcs" else "mod_funcs"
  let count := if tests.views.isEmpty then "_showcount" else "showcount"
  testFunction "The caller may modify objects of `org`, an organization it has permissions for."
    ("good_perm_test_" ++ tests.suffix) ["region", "org"]
    [(count, .name "usize"), modifiersParameter paths tests.message modifiers]
    (tests.guarded.map (fun plan =>
        runTest ("good_perm_" ++ plan.functionName) (userArguments ++ ["mod_funcs"])) ++
      (if tests.views.isEmpty then []
       else [runTest ("good_perm_test_show_" ++ tests.suffix) (userArguments ++ ["showcount"])]) ++
      tests.guarded.map fun plan =>
        runTest ("bad_region_" ++ plan.functionName) ["transport", "uri", "token", "org", "mod_funcs"])

/-- Every view shows the objects of the own organization. -/
def ownViews (paths : ModulePaths) (tests : MessageTests) : Item :=
  testFunction "Showing objects of `org` returns `count` of them."
    ("good_perm_test_show_" ++ tests.suffix) ["region", "org"] [("count", .name "usize")]
    (showChecks paths "count" true 0 tests.views)

/-- Two users and two organizations. -/
def matrix (paths : ModulePaths) (tests : MessageTests) : Item :=
  let call := fun (name user org : String) (more : List String) =>
    runTest (name ++ tests.suffix) (["transport", "uri", user, "region", org] ++ more)
  .function {
    docs := ["Users of `token1` and `token2` may modify the objects of `org1` and `org2`",
      "respectively, and not each other's."]
    attributes := ["#[allow(clippy::too_many_arguments)]"]
    name := "perm_test_" ++ tests.suffix
    parameters :=
      [("transport", .borrowed false (.dynamic "ApiTransport")), ("uri", .str), ("token1", .str),
        ("token2", .str), ("region", .str), ("org1", .str), ("org2", .str),
        ("showcount", .name "usize"), modifiersParameter paths tests.message "mod_funcs"]
    result := none
    bounds := none
    body :=
      (if tests.guarded.isEmpty then []
       else [call "bad_perm_test_" "token1" "org2" ["mod_funcs"],
        call "bad_perm_test_" "token2" "org1" ["mod_funcs"]]) ++
      (if tests.views.isEmpty then []
       else [call "bad_perm_test_show_" "token1" "org2" [],
        call "bad_perm_test_show_" "token2" "org1" []]) ++
      [call "good_perm_test_" "token1" "org1" ["showcount", "mod_funcs"],
        call "good_perm_test_" "token2" "org2" ["showcount", "mod_funcs"]]
  }

/-- The tests of a message. -/
def messageChunk (paths : ModulePaths) (tests : MessageTests) : Chunk :=
  ⟨uses paths,
    (if tests.guarded.isEmpty then [] else [foreignChanges paths tests]) ++
      (if tests.views.isEmpty then [] else [foreignViews paths tests]) ++
      [ownChanges paths tests] ++
      (if tests.views.isEmpty then [] else [ownViews paths tests]) ++
      [matrix paths tests]⟩

end PermissionTest

end RegionGateway
