import RegionGateway.Output.Handler
import RegionGateway.Proofs.Rust.Names
import RegionGateway.Proofs.Rust.Printing
import RegionGateway.Proofs.Text.Parts

/-!
# Texts of handlers

The text of a handler, with its table of settable fields, is read as token trees if the names in its plan are
words and the texts that it quotes are clean (`read_chunk`).
-/

namespace RegionGateway

open Rust
open Rust.TokenTree (word mark)

namespace Rust

theorem isName_word {name : String} (h : IsWord name) : IsName name := ⟨name, h, .inl rfl⟩

theorem treesOf_name {name : String} (h : IsName name) : treesOf name = [word name] :=
  treesOf_eq (show Reads name (flatten [word name]) from reads_name h) (by simp)

theorem isReadable_name {name : String} (h : IsName name) : IsReadable name :=
  isReadable_of_reads (show Reads name (flatten [word name]) from reads_name h) (by simp)

theorem treesOf_word {name : String} (h : IsWord name) : treesOf name = [word name] :=
  treesOf_name (isName_word h)

/-- The names of a path. -/
def ArePathNames (names : List String) : Prop := names ≠ [] ∧ ∀ name ∈ names, IsName name

theorem arePathNames_fieldPath {path : String} (h : ∀ name ∈ Text.split '.' path, IsWord name) :
    ArePathNames ((Text.split '.' path).map ident) := by
  refine ⟨?_, ?_⟩
  · simp [Text.split, Text.splitChars_ne_nil]
  · rw [List.forall_mem_map]
    exact fun name hname => isName_ident (h name hname)

/-- A path may stand after a text that is read with nothing left. -/
theorem read_path_after {start : String} {trees : List TokenTree} {names : List String}
    (hstart : Closed start (flatten trees)) (hplain : ArePlain trees) (hnames : ArePathNames names) :
    treesOf (start ++ Text.join "." names) = trees ++ pathTrees names ∧
      IsReadable (start ++ Text.join "." names) := by
  have hreads : Reads (start ++ Text.join "." names) (flatten (trees ++ pathTrees names)) := by
    rw [flatten_append]
    exact hstart.reads_append (reads_path hnames.2)
  have hplain : ArePlain (trees ++ pathTrees names) := arePlain_append.mpr ⟨hplain, arePlain_path names⟩
  exact ⟨treesOf_eq hreads hplain, isReadable_of_reads hreads hplain⟩

end Rust

namespace Handler

/-- What a plan is made of, given the names in the path of the organization field, if there is one, and in that
of the organization that must exist: names are words, and the texts to be quoted are clean. -/
structure Named (paths : ModulePaths) (plan : MethodPlan) (org required : Option (List String)) : Prop where
  service : IsWord plan.service
  method : IsWord plan.method
  functionName : IsName plan.functionName
  inputType : IsWord plan.inputType
  outputType : IsWord plan.outputType
  wrappers : IsName (localName paths.wrappers)
  messages : IsName (localName paths.messages)
  resource : IsClean plan.resource
  action : IsClean plan.action
  orgNames : ∀ names ∈ org, ArePathNames names
  orgPath : plan.orgPath = org.map (Text.join ".")
  inputOrg : plan.inputOrg = plan.orgPath.elim "\"\"" ("&obj." ++ ·)
  itemOrg : plan.itemOrg = plan.orgPath.elim "\"\"" ("&res." ++ ·)
  requiredNames : ∀ names ∈ required, ArePathNames names
  requiredOrg : plan.requiredOrg = required.map (Text.join ".")
  fieldIds : ∀ entry ∈ plan.fieldIds, IsClean entry.1 ∧ IsClean entry.2

/-- The statements of a handler before the check of the input. -/
def opening (paths : ModulePaths) (plan : MethodPlan) : List Stmt :=
  [.bind (if plan.derivesMask then "mut input" else "input")
      (some (.inModule (localName paths.wrappers) plan.wrapper))
      (.propagate (callOn "decode_request" ["body"])),
    .assign "rc.region" (.method (.place "input.region") "clone" [])] ++
  (if plan.derivesMask then
    [.run (.propagate (callOn "set_region_obj_fields" ["body", "&mut input", plan.fieldIdsName]))]
   else []) ++
  [.bind "obj" none (.borrow false (.place ("input." ++ plan.wrapperField)))]

theorem body_eq (paths : ModulePaths) (plan : MethodPlan) :
    body paths plan = opening paths plan ++ inputCheck plan ++ serve paths plan := rfl

variable {paths : ModulePaths} {plan : MethodPlan} {org required : Option (List String)}

namespace Named

theorem isWord_wrapper (h : Named paths plan org required) : IsWord plan.wrapper :=
  isWord_append (show IsWord "Region" by decide) (List.all_eq_true.mpr h.inputType.2)

theorem isName_wrapperField (h : Named paths plan org required) : IsName plan.wrapperField :=
  isName_ident h.inputType

theorem read_wrapperField (h : Named paths plan org required) :
    treesOf ("input." ++ plan.wrapperField) = [word "input", mark '.', word plan.wrapperField] ∧
      IsReadable ("input." ++ plan.wrapperField) := by
  have hstart : Closed "input." (flatten [word "input", mark '.']) := by decide
  have hname : ArePathNames [plan.wrapperField] :=
    ⟨List.cons_ne_nil _ _, List.forall_mem_singleton.mpr h.isName_wrapperField⟩
  have hread := read_path_after hstart (by simp [Token.role]) hname
  simpa only [Text.join, pathTrees, List.map_cons, List.map_nil, separated, List.cons_append,
    List.nil_append] using hread

theorem isWord_fieldIdsName (h : Named paths plan org required) : IsWord plan.fieldIdsName :=
  isWord_append (isWord_upper (isWord_withoutRawMark h.functionName)) (by decide)

end Named

/-- The trees of the expression for the organization of an object. -/
def orgTrees (object : String) : Option (List String) → List TokenTree
  | none => [.leaf (.literal "")]
  | some names => [mark '&', word object, mark '.'] ++ pathTrees names

theorem read_org {start object : String} (hstart : Closed start (flatten [mark '&', word object, mark '.']))
    (horg : ∀ names ∈ org, ArePathNames names) :
    treesOf ((org.map (Text.join ".")).elim "\"\"" (start ++ ·)) = orgTrees object org ∧
      IsReadable ((org.map (Text.join ".")).elim "\"\"" (start ++ ·)) := by
  cases org with
  | none =>
      have htrees : treesOf "\"\"" = [.leaf (.literal "")] := rfl
      exact ⟨htrees, show IsReadable "\"\"" by decide⟩
  | some names => exact read_path_after hstart (by simp [Token.role]) (horg names rfl)

theorem Named.read_inputOrg (h : Named paths plan org required) :
    treesOf plan.inputOrg = orgTrees "obj" org ∧ IsReadable plan.inputOrg := by
  have hstart : Closed "&obj." (flatten [mark '&', word "obj", mark '.']) := by decide
  rw [h.inputOrg, h.orgPath]
  exact read_org hstart h.orgNames

theorem Named.read_itemOrg (h : Named paths plan org required) :
    treesOf plan.itemOrg = orgTrees "res" org ∧ IsReadable plan.itemOrg := by
  have hstart : Closed "&res." (flatten [mark '&', word "res", mark '.']) := by decide
  rw [h.itemOrg, h.orgPath]
  exact read_org hstart h.orgNames

theorem readable_question (h : Named paths plan org required) {asked : String} (hasked : IsReadable asked) :
    (question plan asked).Readable :=
  have henforcer : IsReadable "enforcer" := by decide
  have henforce : IsReadable "enforce" := by decide
  have huser : IsReadable "&rc.username" := by decide
  ⟨henforcer, henforce, huser, hasked, h.resource, h.action, trivial⟩

theorem read_place {names : List String} (h : ArePathNames names) :
    treesOf ("obj." ++ Text.join "." names) = [word "obj", mark '.'] ++ pathTrees names ∧
      IsReadable ("obj." ++ Text.join "." names) := by
  have hstart : Closed "obj." (flatten [word "obj", mark '.']) := by decide
  exact read_path_after hstart (by simp [Token.role]) h

theorem readable_requireOrg {names : List String} (h : ArePathNames names) :
    (requireOrg (Text.join "." names)).Readable :=
  have henforcer : IsReadable "enforcer" := by decide
  have hexists : IsReadable "org_exists" := by decide
  have herr : IsReadable "Err" := by decide
  have hnotFound : IsReadable "GatewayError::OrgNotFound" := by decide
  have hstring : IsReadable "to_string" := by decide
  have hplace := (read_place h).2
  ⟨⟨henforcer, hexists, hplace, trivial⟩,
    ⟨⟨herr, ⟨hnotFound, ⟨hplace, hstring, trivial⟩, trivial⟩, trivial⟩, trivial⟩, trivial⟩

theorem readable_inputCheck (h : Named paths plan org required) : Stmt.AllReadable (inputCheck plan) := by
  unfold inputCheck
  split
  · have hskip : IsReadable "rc.skip_authz" := by decide
    have herr : IsReadable "Err" := by decide
    have hforbidden : IsReadable "GatewayError::Forbidden" := by decide
    have hrequired : Stmt.AllReadable (plan.requiredOrg.map requireOrg).toList := by
      rw [h.requiredOrg]
      cases hrequired : required with
      | none => trivial
      | some names => exact ⟨readable_requireOrg (h.requiredNames names hrequired), trivial⟩
    have hrefusal : (Stmt.whenTrue (.negate (question plan plan.inputOrg))
        [refuse (.place "GatewayError::Forbidden")] []).Readable :=
      ⟨readable_question h h.read_inputOrg.2, ⟨⟨herr, hforbidden, trivial⟩, trivial⟩, trivial⟩
    exact ⟨⟨hskip, Stmt.allReadable_append.mpr ⟨hrequired, hrefusal, trivial⟩, trivial⟩, trivial⟩
  · trivial

theorem readable_itemFilter (h : Named paths plan org required) : (itemFilter plan).Readable := by
  unfold itemFilter
  split
  · have hskip : IsReadable "rc.skip_authz" := by decide
    exact ⟨hskip, readable_question h h.read_itemOrg.2⟩
  · exact show IsReadable "true" by decide

theorem isReadable_itemName : IsReadable (itemName plan) := by
  unfold itemName
  split <;> decide

theorem readable_messageType (h : Named paths plan org required) {name : String} (hname : IsWord name) :
    (paths.messageType name).Readable :=
  ⟨isReadable_name h.messages, isReadable_name (isName_word hname)⟩

theorem readable_backendCall (h : Named paths plan org required) : (backendCall plan).Readable :=
  have hbackend : IsReadable "backend" := by decide
  have hcaller : IsReadable "&rc" := by decide
  have hobject : IsReadable "obj" := by decide
  ⟨hbackend, isReadable_name h.functionName, hcaller, hobject, trivial⟩

theorem readable_serve (h : Named paths plan org required) : Stmt.AllReadable (serve paths plan) := by
  unfold serve
  split
  · have hserve : IsReadable "serve_stream" := by decide
    have hsink : IsReadable "sink" := by decide
    exact ⟨⟨hserve, hsink, readable_backendCall h, ⟨isReadable_itemName, readable_messageType h h.outputType,
      readable_itemFilter h⟩, trivial⟩, trivial⟩
  · have hresponse : IsReadable "resp" := by decide
    have hreply : IsReadable "reply_json" := by decide
    have hsink : IsReadable "sink" := by decide
    have hborrowed : IsReadable "&resp" := by decide
    exact ⟨⟨hresponse, nofun, readable_backendCall h⟩, ⟨hreply, hsink, hborrowed, trivial⟩, trivial⟩

theorem readable_opening (h : Named paths plan org required) : Stmt.AllReadable (opening paths plan) := by
  have hinput : IsReadable (if plan.derivesMask then "mut input" else "input") := by split <;> decide
  have hwrapper := isReadable_name (isName_word h.isWord_wrapper)
  have hdecode : IsReadable "decode_request" := by decide
  have hbody : IsReadable "body" := by decide
  have hregion : IsReadable "rc.region" := by decide
  have hsent : IsReadable "input.region" := by decide
  have hclone : IsReadable "clone" := by decide
  have hobject : IsReadable "obj" := by decide
  have hfield := h.read_wrapperField.2
  have hmask : Stmt.AllReadable (if plan.derivesMask then
      [.run (.propagate (callOn "set_region_obj_fields" ["body", "&mut input", plan.fieldIdsName]))]
      else []) := by
    split
    · have hset : IsReadable "set_region_obj_fields" := by decide
      have hborrowed : IsReadable "&mut input" := by decide
      exact ⟨⟨hset, hbody, hborrowed, isReadable_name (isName_word h.isWord_fieldIdsName), trivial⟩, trivial⟩
    · trivial
  refine Stmt.allReadable_append.mpr ⟨Stmt.allReadable_append.mpr ⟨⟨?_, ?_, trivial⟩, hmask⟩, ?_, trivial⟩
  · refine ⟨hinput, ?_, hdecode, hbody, trivial⟩
    rintro _ ⟨⟩
    exact ⟨isReadable_name h.wrappers, hwrapper⟩
  · exact ⟨hregion, hsent, hclone, trivial⟩
  · exact ⟨hobject, nofun, hfield⟩

theorem readable_parameters :
    ∀ p ∈ (function paths plan).parameters, IsReadable p.1 ∧ p.2.Readable := by
  have hbackend : IsReadable "backend" ∧ (Ty.borrowed false (.name "B")).Readable :=
    ⟨by decide, show IsReadable "B" by decide⟩
  have henforcer : IsReadable (if plan.check = .off then "_enforcer" else "enforcer") ∧
      (Ty.borrowed false (.dynamic "Enforcer")).Readable := by
    refine ⟨?_, show IsReadable "Enforcer" by decide⟩
    split <;> decide
  have hcaller : IsReadable "mut rc" ∧ (Ty.name "RegionContext").Readable :=
    ⟨by decide, show IsReadable "RegionContext" by decide⟩
  have hbody : IsReadable "body" ∧ (Ty.borrowed false (.slice (.name "u8"))).Readable :=
    ⟨by decide, show IsReadable "u8" by decide⟩
  have hsink : IsReadable "sink" ∧ (Ty.borrowed true (.dynamic "ResponseSink")).Readable :=
    ⟨by decide, show IsReadable "ResponseSink" by decide⟩
  simp [function, requestParameters, hbackend, henforcer, hcaller, hbody, hsink]

theorem readable_outcome : outcome.Readable := by
  have hresult : IsReadable "Result" := by decide
  have herror : IsReadable "GatewayError" := by decide
  have hunit : Ty.unit.Readable := trivial
  exact ⟨hresult, hunit, herror, trivial⟩

theorem readable_function (h : Named paths plan org required) : (function paths plan).Readable where
  docs := by
    simp only [function, List.forall_mem_singleton, String.toList_append, List.mem_append, not_or]
    exact ⟨⟨by decide, h.method.no_newline⟩, by decide⟩
  attributes := nofun
  name := isReadable_name h.functionName
  parameters := readable_parameters
  result := by
    rintro _ ⟨⟩
    exact readable_outcome
  bounds := by
    rintro _ ⟨⟩
    simpa using isReadable_name (isName_word h.service)
  body := by
    show Stmt.AllReadable (opening paths plan ++ inputCheck plan ++ serve paths plan)
    simp [Stmt.allReadable_append, readable_opening h, readable_inputCheck h, readable_serve h]

/-! ## Tables -/

/-- The rows of the table of fields. -/
def fieldRows (plan : MethodPlan) : List (List String × Expr) :=
  plan.fieldIds.map fun (path, id) => ([], .pair (.literal path) (.literal id))

/-- The token trees of the table of fields. -/
def tableTrees (plan : MethodPlan) : List TokenTree :=
  Item.tableTrees false plan.fieldIdsName (.tuple [.str, .str]) (fieldRows plan)

theorem readable_table (h : Named paths plan org required) : Item.ReadableTable
    ("Settable fields of `" ++ plan.inputType ++ "` by JSON path, for `" ++ plan.method ++ "`.")
    plan.fieldIdsName (.tuple [.str, .str]) (fieldRows plan) where
  doc := by
    simp only [String.toList_append, List.mem_append, not_or]
    exact ⟨⟨⟨⟨by decide, h.inputType.no_newline⟩, by decide⟩, h.method.no_newline⟩, by decide⟩
  name := isReadable_name (isName_word h.isWord_fieldIdsName)
  item := by
    have hstr : Ty.str.Readable := show IsReadable "str" by decide
    exact ⟨hstr, hstr, trivial⟩
  comments := by
    rw [fieldRows, List.forall_mem_map]
    exact fun _ _ => nofun
  rows := by
    rw [fieldRows, List.forall_mem_map]
    exact fun entry hentry => h.fieldIds entry hentry

/-- The token trees of a handler, with its table of fields. -/
def trees (paths : ModulePaths) (plan : MethodPlan) : List TokenTree :=
  (if plan.derivesMask then tableTrees plan else []) ++ (function paths plan).trees

theorem text_chunk : (chunk paths plan).text =
    (if plan.derivesMask then (fieldIdsTable plan).text else "") ++
      (Item.function (function paths plan)).text := by
  unfold chunk Chunk.text
  dsimp only
  split
  · simp only [List.cons_append, List.nil_append, List.map_cons, List.map_nil, Text.join, String.append_empty]
  · simp only [List.nil_append, List.map_cons, List.map_nil, Text.join, String.empty_append]

theorem read_chunk (h : Named paths plan org required) :
    read (chunk paths plan).text = some (trees paths plan) := by
  have hnone : Closed "" (flatten []) := by decide
  have hfunction : Closed (Item.function (function paths plan)).text (flatten (function paths plan).trees) := by
    rw [← List.append_nil (flatten (function paths plan).trees)]
    exact (Function.closed_text (readable_function h)).append closed_newline
  have htable : Closed (if plan.derivesMask then (fieldIdsTable plan).text else "")
      (flatten (if plan.derivesMask then tableTrees plan else [])) := by
    split
    · exact Item.closed_table (readable_table h) false
    · exact hnone
  have hplain : ArePlain (if plan.derivesMask then tableTrees plan else []) := by
    split
    · exact Item.arePlain_tableTrees (readable_table h) false
    · trivial
  rw [text_chunk]
  refine read_of_reads ?_ (arePlain_append.mpr ⟨hplain, Function.arePlain_trees (readable_function h)⟩)
  rw [trees, flatten_append]
  exact (htable.append hfunction).reads

end Handler

end RegionGateway
