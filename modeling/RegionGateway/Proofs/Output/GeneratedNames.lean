import RegionGateway.Proofs.Output.Files
import RegionGateway.Proofs.Rust.Identifiers
import RegionGateway.Widgets.Interface

/-!
# Legal names in generated files

Whether what is generated for a method or a file has a legal name is decided by three things that the
generator gets wrong: reserved words that it does not know, raw identifiers behind the names of test
functions, and files whose names leave nothing to make a module of (`names_legal_but_for_slips`).
-/

namespace RegionGateway

open Rust

/-! ## Functions -/

/-- What is put before the name of a method in the names of test functions. -/
def testPrefixes : List String := ["test_", "test_perm_", "bad_perm_", "bad_", "good_perm_", "bad_region_"]

theorem map_name_functions (paths : ModulePaths) (plan : MethodPlan) :
    ((TestHelper.chunk paths plan).functions ++ (PermissionTest.chunk paths plan).functions).map (·.name) =
      testPrefixes.map (· ++ plan.functionName) := rfl

/-! ## Modules -/

namespace FileDecl

theorem moduleChar_of_alphanum {c : Char} (h : c.isAlphanum = true) : moduleChar c = c := if_pos h

theorem moduleChar_eq_underscore {c : Char} : moduleChar c = '_' ↔ c.isAlphanum = false := by
  unfold moduleChar
  split
  · next h =>
      refine iff_of_false ?_ (by simp [h])
      rintro rfl
      exact absurd h (by decide)
  · next h => simpa using h

/-- A text of letters and digits is only made of itself. -/
theorem ofList_map_moduleChar_iff {chars : List Char} {word : String}
    (h : ∀ c ∈ word.toList, c.isAlphanum = true) :
    String.ofList (chars.map moduleChar) = word ↔ String.ofList chars = word := by
  rw [String.ext_iff, String.ext_iff, String.toList_ofList, String.toList_ofList]
  constructor
  · intro hmade
    have hkept : chars.map moduleChar = chars := by
      conv_rhs => rw [← List.map_id chars]
      refine List.map_congr_left fun c hc => moduleChar_of_alphanum ?_
      have hmem : moduleChar c ∈ word.toList := hmade ▸ List.mem_map_of_mem hc
      by_contra hother
      have hunderscore := moduleChar_eq_underscore.mpr (Bool.eq_false_iff.mpr hother)
      exact absurd (hunderscore ▸ h _ hmem) (by decide)
    exact hkept.symm.trans hmade
  · intro hsame
    rw [← hsame] at h ⊢
    conv_rhs => rw [← List.map_id chars]
    exact List.map_congr_left fun c hc => moduleChar_of_alphanum (h c hc)

variable (file : FileDecl)

theorem moduleChars_mem_unlistedWords :
    String.ofList file.moduleChars ∈ unlistedWords ↔ file.stem ∈ unlistedWords := by
  have hletters : ∀ word ∈ unlistedWords, word.toList.all Char.isAlphanum = true := by decide +kernel
  have hmade : ∀ word ∈ unlistedWords,
      (String.ofList file.moduleChars = word ↔ file.stem = word) := fun word hword => by
    rw [moduleChars, ofList_map_moduleChar_iff (List.all_eq_true.mp (hletters word hword)),
      String.ofList_toList]
  constructor
  · intro h
    rw [(hmade _ h).mp rfl]
    exact h
  · intro h
    rw [(hmade _ h).mpr rfl]
    exact h

theorem moduleChars_eq_nil : file.moduleChars = [] ↔ file.stem = "" := by
  rw [moduleChars, List.map_eq_nil_iff, String.toList_eq_nil_iff]

theorem moduleChars_eq_underscore :
    file.moduleChars = ['_'] ↔ ∃ c, file.stem = String.singleton c ∧ c.isAlphanum = false := by
  simp only [moduleChars, List.map_eq_singleton_iff, moduleChar_eq_underscore, String.ext_iff,
    String.toList_singleton]

theorem isWordChar_of_mem_moduleChars {c : Char} (h : c ∈ file.moduleChars) : isWordChar c = true := by
  obtain ⟨d, -, rfl⟩ := List.mem_map.mp h
  exact isModuleChar_moduleChar d

/-- Characters behind an underscore are legal. -/
theorem isIdentifier_underscore_append {chars : List Char} (h : ∀ c ∈ chars, isWordChar c = true)
    (hne : chars ≠ []) : IsIdentifier ("_" ++ String.ofList chars) := by
  have hchars : ("_" ++ String.ofList chars).toList = '_' :: chars := by
    simp [String.toList_append]
  have hplain : IsPlain ("_" ++ String.ofList chars) := by
    refine ⟨isWord_append (by decide) (by simpa using h), by rw [hchars]; rfl, fun hsame => hne ?_⟩
    rw [hsame] at hchars
    exact (List.cons.inj hchars).2.symm
  exact hplain.isIdentifier_of_underscore (by simp [hchars])

/-- The module of a file has a legal name unless nothing of the file's name is left, or one underscore, or
the name is a reserved word that is overlooked. -/
theorem isIdentifier_moduleName_iff : IsIdentifier file.moduleName ↔
    file.stem ≠ "" ∧ (∀ c, file.stem = String.singleton c → c.isAlphanum = true) ∧
      file.stem ∉ unlistedWords := by
  have hsingle : (∀ c, file.stem = String.singleton c → c.isAlphanum = true) ↔
      file.moduleChars ≠ ['_'] := by
    rw [ne_eq, moduleChars_eq_underscore]
    simp
  rw [hsingle, ne_eq, ← moduleChars_eq_nil, ← moduleChars_mem_unlistedWords, file.moduleName_eq]
  have hchars : ∀ c ∈ file.moduleChars, isWordChar c = true := fun c => file.isWordChar_of_mem_moduleChars
  generalize file.moduleChars = chars at hchars
  split
  · next hkeyword =>
      have hkeywords : ∀ word ∈ keywords, IsPlain word ∧ word ∉ unlistedWords := by decide +kernel
      obtain ⟨hplain, hlisted⟩ := hkeywords _ hkeyword
      refine iff_of_true ?_ ⟨fun hnil => hplain.1.1 (by simp [hnil]), fun hone => hplain.2.2 ?_, hlisted⟩
      · exact (hplain.append (b := "_") (by decide)).isIdentifier_of_underscore (by simp)
      · rw [hone]
  · next hfree =>
      split
      · exact iff_of_false not_isIdentifier_underscore fun h => h.1 rfl
      · next c rest =>
          split
          · next hdigit =>
              have hletters : ∀ word ∈ unlistedWords, word.toList.head?.any Char.isDigit = false := by
                decide +kernel
              refine iff_of_true (isIdentifier_underscore_append hchars (List.cons_ne_nil _ _))
                ⟨List.cons_ne_nil _ _, fun hone => ?_, fun hmem => ?_⟩
              · rw [(List.cons.inj hone).1] at hdigit
                exact absurd hdigit (by decide)
              · exact absurd (hletters _ hmem) (by simpa using hdigit)
          · next hdigit =>
              by_cases hone : c :: rest = ['_']
              · rw [hone]
                exact iff_of_false not_isIdentifier_underscore fun h => h.2.1 rfl
              · have hplain : IsPlain (String.ofList (c :: rest)) := by
                  refine ⟨⟨by simp, by simpa using hchars⟩, by simpa using hdigit, fun h => hone ?_⟩
                  simpa using congrArg String.toList h
                rw [hplain.isIdentifier_iff, mem_reservedWords, or_iff_right hfree]
                simp [hone]

end FileDecl

/-! ## All names -/

/-- When the names that are generated for a declared name, for a method with its plan and for a file are
legal. -/
structure NamesLegal (paths : ModulePaths) (method : String) (plan : MethodPlan) (file : FileDecl) :
    Prop where
  /-- The identifier of a method, message or field is legal if the name is no overlooked word. -/
  idents : ∀ name, IsDeclaredName name → (IsIdentifier (ident name) ↔ snakeCase name ∉ unlistedWords)
  /-- The test functions of a method are named after its function, -/
  functions :
    ((TestHelper.chunk paths plan).functions ++ (PermissionTest.chunk paths plan).functions).map (·.name) =
      testPrefixes.map (· ++ plan.functionName)
  /-- which is legal if the function's name is not raw. -/
  prefixed : ∀ start ∈ testPrefixes, (IsIdentifier (start ++ plan.functionName) ↔
    (snakeCase method ∈ keywords → snakeCase method ∈ pathWords))
  /-- The constant of a method that lists fields always has a legal name. -/
  constant : IsIdentifier plan.fieldIdsName
  /-- The module of a file is legal if something is left of the file's name other than an underscore, and
  that is no overlooked word. -/
  module : IsIdentifier file.moduleName ↔
    file.stem ≠ "" ∧ (∀ c, file.stem = String.singleton c → c.isAlphanum = true) ∧
      file.stem ∉ unlistedWords

/-- **Generated names are legal but for three slips.** For every declared name, every planned method and
every file: identifiers and modules are legal unless they are reserved words that the list of keywords
lacks; the names of test functions are legal unless the method's own name is raw; and a module is an
underscore alone if the file's name is empty or one character that is neither letter nor digit. Names of
constants are always legal. -/
theorem names_legal_but_for_slips {service : String} {method : MethodDecl} {plan : MethodPlan}
    (hof : plan.IsOf service method) (hname : IsDeclaredName method.name) (paths : ModulePaths)
    (file : FileDecl) : NamesLegal paths method.name plan file where
  idents _ h := isIdentifier_ident_iff h
  functions := map_name_functions paths plan
  prefixed start hstart := by
    have hplain : ∀ start ∈ testPrefixes, IsPlain start ∧ '_' ∈ start.toList := by decide
    rw [hof.functionName]
    exact isIdentifier_append_ident_iff hname (hplain start hstart).1 (hplain start hstart).2
  constant := by
    rw [MethodPlan.fieldIdsName, hof.functionName]
    exact isIdentifier_upper_ident hname (by decide) (by decide)
  module := file.isIdentifier_moduleName_iff

theorem names_legal_but_for_slips_widget : IsDeclaredName "DeleteWidget" ∧ ∃ plan after,
    Generation.planMethod Widgets.request "widget" "WidgetApi"
      (Widgets.guardedMethod "DeleteWidget" "Widget" "Result" Widgets.manageDirective false) .empty =
        (.ok plan, after) ∧
      NamesLegal .standard "DeleteWidget" plan Widgets.widgetFile := by
  have hname : IsDeclaredName "DeleteWidget" :=
    ⟨'D', _, rfl, by decide, List.all_eq_true.mp (by decide +kernel)⟩
  have hplanned : faultOf (Generation.planMethod Widgets.request "widget" "WidgetApi"
      (Widgets.guardedMethod "DeleteWidget" "Widget" "Result" Widgets.manageDirective false) .empty).1 =
        none := by
    decide +kernel
  obtain ⟨plan, hplan⟩ := faultOf_eq_none.mp hplanned
  have hof := (Generation.planMethod_eq_ok (Prod.ext hplan rfl)).2
  exact ⟨hname, plan, _, Prod.ext hplan rfl, names_legal_but_for_slips hof hname .standard Widgets.widgetFile⟩

/-- A method named for a reserved word, one named for a keyword, and files named for a reserved word and
for nothing. -/
theorem illegal_names :
    (IsDeclaredName "Try" ∧ ¬ IsIdentifier (ident "Try")) ∧
      (IsDeclaredName "Type" ∧ ¬ IsIdentifier ("test_perm_" ++ ident "Type")) ∧
      ¬ IsIdentifier (FileDecl.moduleName ⟨"try.proto", [], []⟩) ∧
      ¬ IsIdentifier (FileDecl.moduleName ⟨".proto", [], []⟩) := by
  have hplain : ∀ name, IsPlain name → name ∈ reservedWords → ¬ IsIdentifier name :=
    fun name hplain hreserved hlegal => hplain.isIdentifier_iff.mp hlegal hreserved
  refine ⟨⟨⟨'T', ['r', 'y'], rfl, by decide, List.all_eq_true.mp (by decide)⟩, ?_⟩,
    ⟨⟨'T', ['y', 'p', 'e'], rfl, by decide, List.all_eq_true.mp (by decide)⟩, ?_⟩, ?_, ?_⟩
  · exact hplain _ (by decide +kernel) (by decide +kernel)
  · have hraw : ident "Type" = "r#type" := by decide +kernel
    rw [hraw]
    have hstart : IsWord "test_perm_" := by decide
    exact not_isIdentifier_append_raw hstart "type"
  · exact hplain _ (by decide +kernel) (by decide +kernel)
  · have hmodule : FileDecl.moduleName ⟨".proto", [], []⟩ = "_" := by decide +kernel
    rw [hmodule]
    exact not_isIdentifier_underscore

end RegionGateway
