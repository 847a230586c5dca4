import RegionGateway.Gateway.Error
import RegionGateway.Gateway.MessageType
import RegionGateway.Output.PermissionTest

/-!
# Running permission tests

What a generated permission test does: it sends requests for an organization and compares the outcomes
with what it expects. How a request is sent is a parameter. The first expectation that is not met
ends the test with a complaint.
-/

namespace RegionGateway

namespace MethodPlan

/-- The input of a test request: empty but for the organization it belongs to; an update lists that
field. -/
def testInput (plan : MethodPlan) (type : MessageType α) (org : String) : α :=
  match plan.orgPath with
  | none => type.empty
  | some path =>
    let owned := type.setTextAt path org type.empty
    plan.orgFieldId.elim owned fun id => type.setFields (type.fields owned ++ [id]) owned

end MethodPlan

/-- Sends the test request of a planned method with a token to a region for an organization; gives the
number of values received. -/
abbrev TestSender (m : Type → Type) :=
  MethodPlan → String → String → String → m (Except ClientError Nat)

/-- A caller with the organization that is asked about. -/
structure TestUser where
  token : String
  org : String

/-- What the tests of one or two users are run with. -/
structure TestCase where
  region : String
  first : TestUser
  second : TestUser
  /-- The number of objects that a view is expected to show. -/
  count : Nat
  /-- The status that a call is expected to fail with. -/
  status : UInt16

/-- A run of a test; it may end with a complaint. -/
abbrev TestRun (m : Type → Type) := ExceptT String m Unit

namespace PermissionCheck

variable {m : Type → Type} [Monad m]

/-- The complaint about two values that should be equal. -/
def unequal (found expected reason : String) : String :=
  "assertion `left == right` failed: " ++ reason ++ "\n  left: " ++ found ++ "\n right: " ++ expected

/-- The decimal digits of a number. -/
def decimal (n : Nat) : String := String.ofList (Nat.toDigits 10 n)

/-- Expects two numbers to be equal. -/
def expectEqual (found expected : Nat) (reason : String) : TestRun m :=
  if found = expected then return () else throw (unequal (decimal found) (decimal expected) reason)

/-- What complaints about the error of a call begin with. -/
def reason (plan : MethodPlan) (error : ClientError) : String := plan.method ++ ": " ++ error.message

/-- Expects an error to have a status. -/
def expectStatus (plan : MethodPlan) (error : ClientError) (status : UInt16) : TestRun m :=
  expectEqual error.code.toNat status.toNat (reason plan error)

/-- Expects the wording of an error to contain a text. -/
def expectText (plan : MethodPlan) (error : ClientError) (text : String) : TestRun m :=
  if Text.contains text error.message then return () else throw (reason plan error)

/-- Expects a call to fail, and goes on with its error. -/
def expectError (plan : MethodPlan) (call : m (Except ClientError Nat)) (complaint : String) :
    ExceptT String m ClientError := do
  match ← ExceptT.lift call with
  | .ok _ => throw (plan.method ++ complaint)
  | .error error => return error

/-- Expects a call for an organization to succeed. -/
def expectValues (plan : MethodPlan) (call : m (Except ClientError Nat)) (org : String) :
    ExceptT String m Nat := do
  match ← ExceptT.lift call with
  | .ok count => return count
  | .error error => throw (plan.method ++ " for org " ++ org ++ ": " ++ error.message)

/-! ## Tests of one method -/

/-- The method is forbidden for an organization. -/
def forbidden (send : TestSender m) (region : String) (user : TestUser) (plan : MethodPlan) :
    TestRun m := do
  let error ← expectError plan (send plan user.token region user.org)
    (" for org " ++ user.org ++ " should be forbidden")
  expectText plan error "Forbidden"
  expectStatus plan error 403

/-- The method fails with a status. -/
def failing (send : TestSender m) (region : String) (user : TestUser) (status : UInt16)
    (plan : MethodPlan) : TestRun m := do
  let error ← expectError plan (send plan user.token region user.org)
    (" for org " ++ user.org ++ " should fail")
  expectStatus plan error status

/-- The method succeeds for an organization. -/
def succeeding (send : TestSender m) (region : String) (user : TestUser) (plan : MethodPlan) :
    TestRun m := do
  let _ ← expectValues plan (send plan user.token region user.org) user.org

/-- The method fails in an unknown region. -/
def failingInRegion (send : TestSender m) (user : TestUser) (plan : MethodPlan) : TestRun m := do
  let region := PermissionTest.unknownRegion
  let error ← expectError plan (send plan user.token region user.org)
    (" in region " ++ region ++ " should fail")
  if error.message = "Forbidden" then expectStatus plan error 403
  else
    expectText plan error ("\"" ++ region ++ "\" not found")
    expectStatus plan error 400

/-! ## Tests of a message -/

/-- Runs tests one after the other. -/
def inTurn (tests : List (TestRun m)) : TestRun m := tests.forM id

/-- A view shows so many objects of an organization. -/
def showing (send : TestSender m) (region : String) (user : TestUser) (count : Nat)
    (plan : MethodPlan) : TestRun m := do
  let found ← expectValues plan (send plan user.token region user.org) user.org
  expectEqual found count (plan.method ++ " for org " ++ user.org)

/-- No method changes objects of a foreign organization. -/
def foreignChanges (send : TestSender m) (region : String) (user : TestUser)
    (tests : MessageTests) : TestRun m :=
  inTurn (tests.guarded.map (forbidden send region user))

/-- No view shows objects of a foreign organization. -/
def foreignViews (send : TestSender m) (region : String) (user : TestUser) (tests : MessageTests) :
    TestRun m :=
  inTurn (tests.views.map (showing send region user 0))

/-- Every view shows the objects of the own organization, and fails in an unknown region. -/
def ownViews (send : TestSender m) (region : String) (user : TestUser) (count : Nat)
    (tests : MessageTests) : TestRun m :=
  inTurn (tests.views.flatMap fun plan =>
    [showing send region user count plan, failingInRegion send user plan])

/-- Every method changes objects of the own organization, and none in an unknown region. -/
def ownChanges (send : TestSender m) (region : String) (user : TestUser) (count : Nat)
    (tests : MessageTests) : TestRun m :=
  inTurn (tests.guarded.map (succeeding send region user) ++ [ownViews send region user count tests] ++
    tests.guarded.map (failingInRegion send user))

/-- Either user changes and sees the objects of the own organization only. -/
def matrix (send : TestSender m) (case : TestCase) (tests : MessageTests) : TestRun m :=
  let (first, second) := (case.first, case.second)
  inTurn [
    foreignChanges send case.region ⟨first.token, second.org⟩ tests,
    foreignChanges send case.region ⟨second.token, first.org⟩ tests,
    foreignViews send case.region ⟨first.token, second.org⟩ tests,
    foreignViews send case.region ⟨second.token, first.org⟩ tests,
    ownChanges send case.region first case.count tests,
    ownChanges send case.region second case.count tests]

/-! ## Tests by name -/

/-- The tests of a method with the names of their functions. -/
def ofMethod (send : TestSender m) (case : TestCase) (plan : MethodPlan) :
    List (String × TestRun m) :=
  [("bad_perm_" ++ plan.functionName, forbidden send case.region case.first plan),
    ("bad_" ++ plan.functionName, failing send case.region case.first case.status plan),
    ("good_perm_" ++ plan.functionName, succeeding send case.region case.first plan),
    ("bad_region_" ++ plan.functionName, failingInRegion send case.first plan)]

/-- The tests of a message with the names of their functions. -/
def ofMessage (send : TestSender m) (case : TestCase) (tests : MessageTests) :
    List (String × TestRun m) :=
  (if tests.guarded.isEmpty then []
   else [("bad_perm_test_" ++ tests.suffix, foreignChanges send case.region case.first tests)]) ++
  (if tests.views.isEmpty then []
   else [("bad_perm_test_show_" ++ tests.suffix, foreignViews send case.region case.first tests),
    ("good_perm_test_show_" ++ tests.suffix, ownViews send case.region case.first case.count tests)]) ++
  [("good_perm_test_" ++ tests.suffix, ownChanges send case.region case.first case.count tests),
    ("perm_test_" ++ tests.suffix, matrix send case tests)]

end PermissionCheck

end RegionGateway
