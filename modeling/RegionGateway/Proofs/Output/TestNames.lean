import Mathlib.Data.List.Perm.Basic
import RegionGateway.Proofs.Output.Agreement
import RegionGateway.Widgets.Interface

/-!
# Names of test functions

A test function is named after the function of a method or after the suffix of a group of tests, behind one
of nine starts. Some starts begin with others, so two names of different kinds can be the same text:

* `NameKind.start_append_eq_iff`: names are the same if kind and rest are, or if one of the `clashes` is met;
* `nodup_names_iff`: when the names of methods and groups are different;
* `Generation.names_test`: the functions of a test file have these names.

Together: `Generation.test_names_nodup_iff`.
-/

namespace RegionGateway

open Rust

/-- Of two ways to put a text together, one begins with more than the other. -/
theorem append_eq_append_cases {a b x y : String} (h : a ++ x = b ++ y) :
    (∃ more, b = a ++ more ∧ x = more ++ y) ∨ ∃ more, a = b ++ more ∧ y = more ++ x := by
  have hlist := congrArg String.toList h
  rw [String.toList_append, String.toList_append, List.append_eq_append_iff] at hlist
  rcases hlist with ⟨more, hfirst, hrest⟩ | ⟨more, hfirst, hrest⟩
  · exact .inl ⟨String.ofList more, String.toList_inj.mp (by simp [hfirst]),
      String.toList_inj.mp (by simp [hrest])⟩
  · exact .inr ⟨String.ofList more, String.toList_inj.mp (by simp [hfirst]),
      String.toList_inj.mp (by simp [hrest])⟩

namespace PermissionTest

/-! ## Kinds of names -/

/-- What a test function is for. -/
inductive NameKind where
  | forbidden
  | failing
  | succeeding
  | failingInRegion
  | foreignChanges
  | foreignViews
  | ownChanges
  | ownViews
  | matrix
  deriving DecidableEq

namespace NameKind

/-- What names of a kind begin with. -/
def start : NameKind → String
  | forbidden => "bad_perm_"
  | failing => "bad_"
  | succeeding => "good_perm_"
  | failingInRegion => "bad_region_"
  | foreignChanges => "bad_perm_test_"
  | foreignViews => "bad_perm_test_show_"
  | ownChanges => "good_perm_test_"
  | ownViews => "good_perm_test_show_"
  | matrix => "perm_test_"

/-- The checks of a method. -/
def ofMethod : List NameKind := [forbidden, failing, succeeding, failingInRegion]

/-- The tests of a message. -/
def ofTests (tests : MessageTests) : List NameKind :=
  (if tests.guarded.isEmpty then [] else [foreignChanges]) ++
    (if tests.views.isEmpty then [] else [foreignViews]) ++ [ownChanges] ++
    (if tests.views.isEmpty then [] else [ownViews]) ++ [matrix]

/-- The kinds of which the second begins as the first does, with what the second start goes on with. -/
def clashes : List (NameKind × NameKind × String) := [
  (failing, forbidden, "perm_"), (failing, failingInRegion, "region_"),
  (failing, foreignChanges, "perm_test_"), (failing, foreignViews, "perm_test_show_"),
  (forbidden, foreignChanges, "test_"), (forbidden, foreignViews, "test_show_"),
  (succeeding, ownChanges, "test_"), (succeeding, ownViews, "test_show_"),
  (foreignChanges, foreignViews, "show_"), (ownChanges, ownViews, "show_")]

theorem start_of_clash {a b : NameKind} {rest : String} (h : (a, b, rest) ∈ clashes) :
    b.start = a.start ++ rest := by
  have hall : ∀ clash ∈ clashes, clash.2.1.start = clash.1.start ++ clash.2.2 := by decide
  exact hall _ h

/-- A start that begins as another does is the same or clashes with it. -/
theorem clash_of_start {a b : NameKind} {rest : String} (h : b.start = a.start ++ rest) :
    a = b ∧ rest = "" ∨ (a, b, rest) ∈ clashes := by
  have hpairs : ∀ a b : NameKind, a.start.toList <+: b.start.toList →
      a = b ∨ (a, b, String.ofList (b.start.toList.drop a.start.toList.length)) ∈ clashes := by
    intro a b
    cases a <;> cases b <;> decide
  have hlist : b.start.toList = a.start.toList ++ rest.toList := by rw [h, String.toList_append]
  rcases hpairs a b ⟨_, hlist.symm⟩ with rfl | hclash
  · exact .inl ⟨rfl, by simpa using hlist⟩
  · rw [hlist, List.drop_left, String.ofList_toList] at hclash
    exact .inr hclash

/-- Two names are the same text if kind and rest are the same, or if the kinds clash and the rest of one name
begins with what the other start goes on with. -/
theorem start_append_eq_iff {a b : NameKind} {x y : String} : a.start ++ x = b.start ++ y ↔
    (a = b ∧ x = y) ∨ (∃ more, (a, b, more) ∈ clashes ∧ x = more ++ y) ∨
      ∃ more, (b, a, more) ∈ clashes ∧ y = more ++ x := by
  constructor
  · intro h
    rcases append_eq_append_cases h with ⟨more, hstart, hrest⟩ | ⟨more, hstart, hrest⟩
    · rcases clash_of_start hstart with ⟨rfl, rfl⟩ | hclash
      · exact .inl ⟨rfl, by simpa using hrest⟩
      · exact .inr (.inl ⟨more, hclash, hrest⟩)
    · rcases clash_of_start hstart with ⟨rfl, rfl⟩ | hclash
      · exact .inl ⟨rfl, by simpa using hrest.symm⟩
      · exact .inr (.inr ⟨more, hclash, hrest⟩)
  · rintro (⟨rfl, rfl⟩ | ⟨more, hclash, rfl⟩ | ⟨more, hclash, rfl⟩)
    · rfl
    · rw [start_of_clash hclash, String.append_assoc]
    · rw [start_of_clash hclash, String.append_assoc]

end NameKind

/-! ## Names of functions -/

variable (functions : List String) (groups : List MessageTests)

/-- The checks of methods: kinds of names, each with what the name ends in. -/
def methodNames : List (NameKind × String) :=
  functions.flatMap fun function => NameKind.ofMethod.map fun kind => (kind, function)

/-- The tests of messages: kinds of names, each with what the name ends in. -/
def groupNames : List (NameKind × String) :=
  groups.flatMap fun tests => (NameKind.ofTests tests).map fun kind => (kind, tests.suffix)

/-- All of both. -/
def names : List (NameKind × String) := methodNames functions ++ groupNames groups

/-- The text of a name. -/
def nameText (name : NameKind × String) : String := name.1.start ++ name.2

/-- No test function of these methods and groups is named like another: no two groups have one suffix, and no
method or group is named like one of the others behind what tells their kinds apart. -/
structure NamedApart : Prop where
  suffixes : (groups.map (·.suffix)).Nodup
  forbidden : ∀ function ∈ functions, "perm_" ++ function ∉ functions
  failingInRegion : ∀ function ∈ functions, "region_" ++ function ∉ functions
  ownChanges : ∀ tests ∈ groups, "test_" ++ tests.suffix ∉ functions
  foreignChanges : ∀ tests ∈ groups, tests.guarded ≠ [] → "perm_test_" ++ tests.suffix ∉ functions
  ownViews : ∀ tests ∈ groups, tests.views ≠ [] → "test_show_" ++ tests.suffix ∉ functions
  foreignViews : ∀ tests ∈ groups, tests.views ≠ [] → "perm_test_show_" ++ tests.suffix ∉ functions
  views : ∀ tests ∈ groups, tests.views ≠ [] → "show_" ++ tests.suffix ∉ groups.map (·.suffix)

variable {functions groups}

theorem mem_ofTests {tests : MessageTests} {kind : NameKind} : kind ∈ NameKind.ofTests tests ↔
    kind = .ownChanges ∨ kind = .matrix ∨ (kind = .foreignChanges ∧ tests.guarded ≠ []) ∨
      ((kind = .foreignViews ∨ kind = .ownViews) ∧ tests.views ≠ []) := by
  unfold NameKind.ofTests
  cases tests.guarded <;> cases tests.views <;> cases kind <;> simp

theorem nodup_ofTests (tests : MessageTests) : (NameKind.ofTests tests).Nodup := by
  unfold NameKind.ofTests
  cases tests.guarded.isEmpty <;> cases tests.views.isEmpty <;> decide

theorem mem_names {kind : NameKind} {rest : String} : (kind, rest) ∈ names functions groups ↔
    (kind ∈ NameKind.ofMethod ∧ rest ∈ functions) ∨
      ∃ tests ∈ groups, kind ∈ NameKind.ofTests tests ∧ tests.suffix = rest := by
  simp [names, methodNames, groupNames, and_comm]

/-- No check of a method is one of the tests of a message. -/
theorem not_mem_ofTests {tests : MessageTests} {kind : NameKind} (h : kind ∈ NameKind.ofMethod) :
    kind ∉ NameKind.ofTests tests := by
  rw [mem_ofTests]
  revert h
  cases kind <;> simp [NameKind.ofMethod]

theorem mem_names_method {kind : NameKind} (h : kind ∈ NameKind.ofMethod) {rest : String} :
    (kind, rest) ∈ names functions groups ↔ rest ∈ functions := by
  rw [mem_names, and_iff_right h, or_iff_left]
  rintro ⟨tests, -, hkind, -⟩
  exact not_mem_ofTests h hkind

theorem mem_names_ownChanges {rest : String} : (.ownChanges, rest) ∈ names functions groups ↔
    ∃ tests ∈ groups, tests.suffix = rest := by
  simp [mem_names, mem_ofTests, NameKind.ofMethod]

theorem mem_names_foreignChanges {rest : String} : (.foreignChanges, rest) ∈ names functions groups ↔
    ∃ tests ∈ groups, tests.guarded ≠ [] ∧ tests.suffix = rest := by
  simp [mem_names, mem_ofTests, NameKind.ofMethod]

theorem mem_names_views {kind : NameKind} (h : kind = .foreignViews ∨ kind = .ownViews) {rest : String} :
    (kind, rest) ∈ names functions groups ↔ ∃ tests ∈ groups, tests.views ≠ [] ∧ tests.suffix = rest := by
  rcases h with rfl | rfl <;> simp [mem_names, mem_ofTests, NameKind.ofMethod]

/-- A function of one kind for each of some things: it is named twice if two things are called the same. -/
theorem nodup_flatMap_kinds {α : Type} (kinds : α → List NameKind) (rest : α → String) (as : List α)
    (hkinds : ∀ a, (kinds a).Nodup) (common : NameKind) (hcommon : ∀ a, common ∈ kinds a) :
    (as.flatMap fun a => (kinds a).map fun kind => (kind, rest a)).Nodup ↔ (as.map rest).Nodup := by
  have hdisjoint : ∀ a b : α, ((kinds a).map fun kind => (kind, rest a)).Disjoint
      ((kinds b).map fun kind => (kind, rest b)) ↔ rest a ≠ rest b := by
    intro a b
    constructor
    · intro h hsame
      refine h (List.mem_map_of_mem (hcommon a)) ?_
      rw [hsame]
      exact List.mem_map_of_mem (hcommon b)
    · intro hne name ha hb
      obtain ⟨kind, -, rfl⟩ := List.mem_map.mp ha
      obtain ⟨other, -, hname⟩ := List.mem_map.mp hb
      exact hne (Prod.mk.inj hname).2.symm
  rw [List.nodup_flatMap, List.Pairwise.iff hdisjoint, ← List.pairwise_map (f := rest)]
  exact and_iff_right fun a _ => (hkinds a).map fun kind other hname => (Prod.mk.inj hname).1

theorem nodup_names :
    (names functions groups).Nodup ↔ functions.Nodup ∧ (groups.map (·.suffix)).Nodup := by
  have hmethods := nodup_flatMap_kinds (fun _ => NameKind.ofMethod) id functions (fun _ => by decide) .forbidden
    (fun _ => by decide)
  have hgroups := nodup_flatMap_kinds NameKind.ofTests (·.suffix) groups nodup_ofTests .matrix
    fun tests => mem_ofTests.mpr (.inr (.inl rfl))
  simp only [id_eq, List.map_id_fun] at hmethods
  rw [names, List.nodup_append', methodNames, groupNames, hmethods, hgroups]
  refine and_congr_right fun _ => and_iff_left ?_
  -- no kind is that of a method and of a group
  rintro ⟨kind, rest⟩ hmethod htests
  obtain ⟨function, -, hmethod⟩ := List.mem_flatMap.mp hmethod
  obtain ⟨tests, -, htests⟩ := List.mem_flatMap.mp htests
  obtain ⟨_, hkind, hname⟩ := List.mem_map.mp hmethod
  obtain ⟨_, hkind', hname'⟩ := List.mem_map.mp htests
  obtain rfl := (Prod.mk.inj hname).1
  obtain rfl := (Prod.mk.inj hname').1
  exact not_mem_ofTests hkind hkind'

/-- Methods and groups are named apart exactly if suffixes are different and no clash is met. -/
theorem namedApart_iff : NamedApart functions groups ↔ (groups.map (·.suffix)).Nodup ∧
    ∀ clash ∈ NameKind.clashes, ∀ rest, (clash.2.1, rest) ∈ names functions groups →
      (clash.1, clash.2.2 ++ rest) ∉ names functions groups := by
  constructor
  · intro h
    refine ⟨h.suffixes, fun clash hclash rest hrest hmore => ?_⟩
    simp only [NameKind.clashes, List.mem_cons, List.not_mem_nil, or_false] at hclash
    -- a method is named like another, a method like a group, or a group like another
    rcases hclash with rfl | rfl | rfl | rfl | rfl | rfl | rfl | rfl | rfl | rfl
    · exact h.forbidden rest ((mem_names_method (by decide)).mp hrest) ((mem_names_method (by decide)).mp hmore)
    · exact h.failingInRegion rest ((mem_names_method (by decide)).mp hrest)
        ((mem_names_method (by decide)).mp hmore)
    · obtain ⟨tests, htests, hguarded, rfl⟩ := mem_names_foreignChanges.mp hrest
      exact h.foreignChanges tests htests hguarded ((mem_names_method (by decide)).mp hmore)
    · obtain ⟨tests, htests, hviews, rfl⟩ := (mem_names_views (.inl rfl)).mp hrest
      exact h.foreignViews tests htests hviews ((mem_names_method (by decide)).mp hmore)
    · obtain ⟨tests, htests, -, rfl⟩ := mem_names_foreignChanges.mp hrest
      exact h.ownChanges tests htests ((mem_names_method (by decide)).mp hmore)
    · obtain ⟨tests, htests, hviews, rfl⟩ := (mem_names_views (.inl rfl)).mp hrest
      exact h.ownViews tests htests hviews ((mem_names_method (by decide)).mp hmore)
    · obtain ⟨tests, htests, rfl⟩ := mem_names_ownChanges.mp hrest
      exact h.ownChanges tests htests ((mem_names_method (by decide)).mp hmore)
    · obtain ⟨tests, htests, hviews, rfl⟩ := (mem_names_views (.inr rfl)).mp hrest
      exact h.ownViews tests htests hviews ((mem_names_method (by decide)).mp hmore)
    · obtain ⟨tests, htests, hviews, rfl⟩ := (mem_names_views (.inl rfl)).mp hrest
      obtain ⟨other, hother, -, hsame⟩ := mem_names_foreignChanges.mp hmore
      exact h.views tests htests hviews (List.mem_map.mpr ⟨other, hother, hsame⟩)
    · obtain ⟨tests, htests, hviews, rfl⟩ := (mem_names_views (.inr rfl)).mp hrest
      obtain ⟨other, hother, hsame⟩ := mem_names_ownChanges.mp hmore
      exact h.views tests htests hviews (List.mem_map.mpr ⟨other, hother, hsame⟩)
  · rintro ⟨hsuffixes, hclash⟩
    refine ⟨hsuffixes, fun function hfunction hmore => ?_, fun function hfunction hmore => ?_,
      fun tests htests hmore => ?_, fun tests htests hguarded hmore => ?_, fun tests htests hviews hmore => ?_,
      fun tests htests hviews hmore => ?_, fun tests htests hviews hmore => ?_⟩
    · exact hclash (.failing, .forbidden, "perm_") (by decide) function
        ((mem_names_method (by decide)).mpr hfunction) ((mem_names_method (by decide)).mpr hmore)
    · exact hclash (.failing, .failingInRegion, "region_") (by decide) function
        ((mem_names_method (by decide)).mpr hfunction) ((mem_names_method (by decide)).mpr hmore)
    · exact hclash (.succeeding, .ownChanges, "test_") (by decide) tests.suffix
        (mem_names_ownChanges.mpr ⟨tests, htests, rfl⟩) ((mem_names_method (by decide)).mpr hmore)
    · exact hclash (.failing, .foreignChanges, "perm_test_") (by decide) tests.suffix
        (mem_names_foreignChanges.mpr ⟨tests, htests, hguarded, rfl⟩) ((mem_names_method (by decide)).mpr hmore)
    · exact hclash (.succeeding, .ownViews, "test_show_") (by decide) tests.suffix
        ((mem_names_views (.inr rfl)).mpr ⟨tests, htests, hviews, rfl⟩) ((mem_names_method (by decide)).mpr hmore)
    · exact hclash (.failing, .foreignViews, "perm_test_show_") (by decide) tests.suffix
        ((mem_names_views (.inl rfl)).mpr ⟨tests, htests, hviews, rfl⟩) ((mem_names_method (by decide)).mpr hmore)
    · exact hclash (.ownChanges, .ownViews, "show_") (by decide) tests.suffix
        ((mem_names_views (.inr rfl)).mpr ⟨tests, htests, hviews, rfl⟩)
        (mem_names_ownChanges.mpr (List.mem_map.mp hmore))

theorem nodup_names_iff : ((names functions groups).map nameText).Nodup ↔
    functions.Nodup ∧ NamedApart functions groups := by
  rw [namedApart_iff]
  constructor
  · intro h
    obtain ⟨hfunctions, hsuffixes⟩ := nodup_names.mp h.of_map
    refine ⟨hfunctions, hsuffixes, ?_⟩
    rintro ⟨kind, other, more⟩ hclash rest hrest hmore
    have hsame := List.inj_on_of_nodup_map h hmore hrest
      (NameKind.start_append_eq_iff.mpr (.inr (.inl ⟨more, hclash, rfl⟩)))
    have hne : ∀ clash ∈ NameKind.clashes, clash.1 ≠ clash.2.1 := by decide
    exact hne _ hclash (Prod.mk.inj hsame).1
  · rintro ⟨hfunctions, hsuffixes, happart⟩
    refine (nodup_names.mpr ⟨hfunctions, hsuffixes⟩).map_on ?_
    rintro ⟨kind, rest⟩ hrest ⟨other, rest'⟩ hrest' hsame
    rcases NameKind.start_append_eq_iff.mp hsame with
      ⟨rfl, rfl⟩ | ⟨more, hclash, rfl⟩ | ⟨more, hclash, rfl⟩
    · rfl
    · exact absurd hrest (happart _ hclash _ hrest')
    · exact absurd hrest' (happart _ hclash _ hrest)

theorem names_chunk (paths : ModulePaths) (plan : MethodPlan) :
    (chunk paths plan).functions.map (·.name) = (methodNames [plan.functionName]).map nameText := rfl

theorem names_messageChunk_eq (paths : ModulePaths) (tests : MessageTests) :
    (messageChunk paths tests).functions.map (·.name) = (groupNames [tests]).map nameText := by
  rw [names_messageChunk, groupNames, List.flatMap_singleton, NameKind.ofTests]
  cases tests.guarded.isEmpty <;> cases tests.views.isEmpty <;> rfl

end PermissionTest

/-! ## Test files -/

namespace Chunk

theorem functions_append (a b : Chunk) : (a.append b).functions = a.functions ++ b.functions :=
  List.filterMap_append

theorem functions_concat (chunks : List Chunk) : (concat chunks).functions = chunks.flatMap (·.functions) := by
  induction chunks with
  | nil => rfl
  | cons first rest ih => rw [concat, List.foldr_cons, functions_append, ← concat, ih, List.flatMap_cons]

end Chunk

namespace FilePlan

/-- The names of the functions of the methods of a file. -/
def functionNames (plan : FilePlan) : List String :=
  plan.services.flatMap fun service => service.methods.map (·.functionName)

/-- The groups of tests of a file. -/
def messageTests (plan : FilePlan) (request : Request) : List MessageTests :=
  plan.services.flatMap (MessageTests.ofService request (InputIndex.ofRequest request))

end FilePlan

namespace Generation

variable (run : Generation)

/-- The test functions of a service are those of its methods, and then those of its groups. -/
theorem names_testService (hmode : run.mode = .test) (inputs : InputIndex) (service : ServicePlan) :
    (run.mode.serviceChunk run.request inputs run.paths service).functions.map (·.name) =
      (PermissionTest.names (service.methods.map (·.functionName))
        (MessageTests.ofService run.request inputs service)).map PermissionTest.nameText := by
  rw [hmode, Mode.serviceChunk, Chunk.functions_concat, List.flatMap_append, List.flatMap_cons,
    List.flatMap_singleton, List.flatMap_map, PermissionTest.names, List.map_append, List.map_append]
  show List.map _ ([] ++ service.methods.flatMap fun plan => (PermissionTest.chunk run.paths plan).functions) ++
    (Chunk.concat ((MessageTests.ofService run.request inputs service).map
      (PermissionTest.messageChunk run.paths))).functions.map _ = _
  rw [List.nil_append, List.map_flatMap, Chunk.functions_concat, List.flatMap_map, List.map_flatMap]
  simp only [PermissionTest.names_chunk, PermissionTest.names_messageChunk_eq, PermissionTest.methodNames,
    PermissionTest.groupNames, List.map_append, List.map_flatMap, List.flatMap_map, List.flatMap_singleton]

/-- The functions of a test file are those of the methods and groups of its services. -/
theorem names_test (hmode : run.mode = .test) (plan : FilePlan) :
    ((run.servicesChunk plan).functions.map (·.name)).Perm
      ((PermissionTest.names plan.functionNames (plan.messageTests run.request)).map
        PermissionTest.nameText) := by
  rw [servicesChunk, Chunk.functions_concat, List.flatMap_map, List.map_flatMap]
  simp only [run.names_testService hmode]
  rw [← List.map_flatMap]
  refine List.Perm.map _ ?_
  simp only [PermissionTest.names]
  have hmethods : PermissionTest.methodNames plan.functionNames = plan.services.flatMap fun service =>
      PermissionTest.methodNames (service.methods.map (·.functionName)) := List.flatMap_assoc
  have hgroups : PermissionTest.groupNames (plan.messageTests run.request) = plan.services.flatMap fun service =>
      PermissionTest.groupNames (MessageTests.ofService run.request (InputIndex.ofRequest run.request) service) :=
    List.flatMap_assoc
  rw [hmethods, hgroups]
  exact (List.flatMap_append_perm _ _ _).symm

variable {run}

/-- **Names of test functions.** A run over any request in test mode, whatever types are claimed: the functions
of a file have different names exactly if the functions of its methods have, and methods and groups are named
apart. -/
theorem test_names_nodup_iff (hmode : run.mode = .test) {owners after : WrapperOwners} {files : List SourceFile}
    (h : run.files owners = (.ok files, after)) :
    ∃ plans, run.plan owners = (.ok plans, after) ∧
      List.Forall₂ FilePlan.IsOf run.request.gatewayFiles plans ∧
      List.Forall₂ (fun plan file => (file.chunk.functions.map (·.name)).Nodup ↔
        plan.functionNames.Nodup ∧
          PermissionTest.NamedApart plan.functionNames (plan.messageTests run.request)) plans files := by
  obtain ⟨plans, hplan, rfl⟩ := files_eq_ok h
  refine ⟨plans, hplan, (plan_eq_ok hplan).files, (run.filesOf_isOf plans).imp ?_⟩
  rintro plan _ ⟨head, hhead, rfl⟩
  have hnone : head.functions = [] := by
    rcases hhead with rfl | rfl
    · rw [table, RouteTable.chunk, hmode]
      rfl
    · rfl
  rw [fileOf, Chunk.functions_append, hnone, List.nil_append, (run.names_test hmode plan).nodup_iff]
  exact PermissionTest.nodup_names_iff

/-- The names of the test functions for the widget services are different. -/
theorem test_names_nodup_iff_widgets : ∃ files plans after,
    (⟨Widgets.request, .test, .standard⟩ : Generation).files .empty = (.ok files, after) ∧
    (⟨Widgets.request, .test, .standard⟩ : Generation).plan .empty = (.ok plans, after) ∧ plans.length = 2 ∧
    ∀ plan ∈ plans, plan.functionNames.Nodup ∧
      PermissionTest.NamedApart plan.functionNames (plan.messageTests Widgets.request) := by
  have hnames : ((⟨Widgets.request, .test, .standard⟩ : Generation).files .empty).1.toOption.map
      (fun files => (files.length, decide (∀ file ∈ files, (file.chunk.functions.map (·.name)).Nodup))) =
        some (2, true) := by
    decide +kernel
  obtain ⟨files, after, hfiles, hresult⟩ := Attempt.exists_of_toOption hnames
  obtain ⟨hlength, hnodup⟩ := Prod.mk.inj hresult
  obtain ⟨plans, hplan, -, hiff⟩ := test_names_nodup_iff rfl hfiles
  refine ⟨files, plans, after, hfiles, hplan, hiff.length_eq.trans hlength, fun plan hplan => ?_⟩
  obtain ⟨file, hfile, hfileIff⟩ := exists_of_forall₂ hiff hplan
  exact hfileIff.mp (of_decide_eq_true hnodup file hfile)

end Generation

/-! ## Names that are not apart -/

/-- A request is accepted; its services have different names, and so have the functions of the methods of each
file. -/
def Request.NamedDifferently (request : Request) : Prop :=
  (∃ count, request.validate = .ok count) ∧
    (request.gatewayFiles.flatMap fun file => file.gatewayServices.map (·.name)).Nodup ∧
    ∀ file ∈ request.gatewayFiles, (file.gatewayMethods.map fun method => ident method.2.name).Nodup

namespace PermissionTest

/-- A method that manages something. -/
def managing (name input : String) : MethodDecl :=
  ⟨name, input, "Result", false, false, some "node,ActionManage,", none, none⟩

/-- Two services whose names, each followed by that of a message, are the same text. -/
def nodes : Request := ⟨[⟨"node.proto",
  [⟨"Node", [managing "AddPoolKey" "PoolKey", managing "AddKey" "Key"]⟩,
    ⟨"NodePool", [managing "DropPoolKey" "PoolKey", managing "DropKey" "Key"]⟩],
  [⟨"PoolKey", [], true, false, none⟩, ⟨"Key", [], true, false, none⟩]⟩], [], none⟩

/-- Two methods, of which one is named like the other with `Perm` before it. -/
def permissions : Request := ⟨[⟨"widget.proto",
  [⟨"WidgetApi", [managing "CreateWidget" "Widget", managing "PermCreateWidget" "Widget"]⟩], []⟩], [], none⟩

/-- Names are different as far as a request goes, and yet a file with tests has two functions of one name. -/
def Collide (request : Request) : Prop :=
  request.NamedDifferently ∧
    ((⟨request, .test, .standard⟩ : Generation).files .empty).1 = .ok (outputsOf request .test) ∧
    ∃ file ∈ outputsOf request .test, ¬(file.chunk.functions.map (·.name)).Nodup

/-- The tests of both services for different messages have the same names, and so have two checks of the two
methods. -/
theorem test_names_collide : Collide nodes ∧ Collide permissions := by
  have hnodes : nodes.NamedDifferently :=
    ⟨⟨4, by decide +kernel⟩, by decide +kernel, by decide +kernel⟩
  have hpermissions : permissions.NamedDifferently :=
    ⟨⟨2, by decide +kernel⟩, by decide +kernel, by decide +kernel⟩
  exact ⟨⟨hnodes, outputsOf_eq .test (by decide +kernel), by decide +kernel⟩,
    hpermissions, outputsOf_eq .test (by decide +kernel), by decide +kernel⟩

end PermissionTest

end RegionGateway
