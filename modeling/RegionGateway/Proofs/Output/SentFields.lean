import RegionGateway.Output.Handler
import RegionGateway.Proofs.Gateway.MaskPaths
import RegionGateway.Proofs.Interface.Trails
import RegionGateway.Proofs.Output.Planning

/-!
# Fields that are sent to updates

The table of a method that updates fields is made from the messages of the interface, the update mask from
that table and the body of a request. An object that conforms to a message has its leaves at the ends of
trails (`Leaf.exists_trail`). A leaf is listed in the table if its trail unfolds, and a leaf that is listed
gets its id into the mask, unless its first name is taken for something else (`sent_leaf_received`). A
message inside itself is unfolded once only, so that leaves in the inner one are lost
(`nested_leaf_not_listed`).
-/

namespace RegionGateway

/-! ## Objects that conform to messages -/

mutual
/-- An object has members of declared names only, and each value fits its field. -/
inductive Conforms (request : Request) : MessageDecl → List (String × Json) → Prop
  | nil {message} : Conforms request message []
  | cons {message field value members} (declared : field ∈ message.fields)
      (fits : Fits request field value) (rest : Conforms request message members) :
      Conforms request message ((field.name, value) :: members)

/-- An object with members fits a field of a declared message type that it conforms to; any other value
fits every field. -/
inductive Fits (request : Request) : FieldDecl → Json → Prop
  | leaf {field value} (leaf : UpdateMask.IsLeaf value) : Fits request field value
  | object {field inner members} (type : request.fieldMessage? field = some inner)
      (conforms : Conforms request inner members) : Fits request field (.obj members)
end

variable {request : Request} {message : MessageDecl} {members : List (String × Json)}

theorem Conforms.declared (h : Conforms request message members) {name : String} {value : Json}
    (hsent : (name, value) ∈ members) :
    ∃ field ∈ message.fields, field.name = name ∧ Fits request field value := by
  induction members with
  | nil => cases hsent
  | cons member members ih =>
      cases h with
      | @cons _ field _ _ hdeclared hfits hrest =>
          rcases List.mem_cons.mp hsent with hsame | hsent
          · cases hsame
            exact ⟨field, hdeclared, rfl, hfits⟩
          · exact ih hrest hsent

/-- The leaves of an object that conforms to a message are at the ends of trails. -/
theorem Leaf.exists_trail {names : List String} (h : Leaf members names)
    (hconforms : Conforms request message members) :
    ∃ trail, Trail request message trail ∧ trailNames trail = names := by
  induction h generalizing message with
  | here hsent _ =>
      obtain ⟨field, hdeclared, rfl, -⟩ := hconforms.declared hsent
      exact ⟨[⟨message, field⟩], .last hdeclared, rfl⟩
  | inside hsent hrest ih =>
      obtain ⟨field, hdeclared, rfl, hfits⟩ := hconforms.declared hsent
      cases hfits with
      | leaf hleaf =>
          rename_i inner names
          cases inner with
          | nil => exact absurd hrest Leaf.ne_nil
          | cons member inner => exact hleaf.elim
      | object htype hinner =>
          obtain ⟨trail, htrail, rfl⟩ := ih hinner
          exact ⟨⟨message, field⟩ :: trail, .into hdeclared htype htrail, rfl⟩

/-! ## Paths as they are compared -/

theorem UpdateMask.present_leaf {names : List String} (h : Leaf members names)
    (haddressed : Addressed names) : Present members (fold (Text.join "." names)) := by
  rw [← mem_present, mem_memberPaths_top]
  exact ⟨names, h, filed_addressed haddressed⟩

/-! ## Tables of updates -/

namespace MethodPlan

variable {service : String} {classified : ClassifiedMethod} {first : Bool} {plan : MethodPlan}

/-- The table of a method that updates fields lists the fields reachable from its input. -/
theorem fieldIds_eq (hplan : ofMethod request service classified first = .ok plan)
    (hsets : plan.setsFields = true)
    (hmessage : request.message? classified.method.inputType = some message) :
    plan.fieldIds = (FieldPath.all request message).map fun path => (path.jsonPath, path.id) := by
  unfold ofMethod at hplan
  dsimp only at hplan
  split at hplan
  · cases hplan
  · obtain rfl := Except.ok.inj hplan
    dsimp only at hsets ⊢
    rw [if_pos hsets, hmessage]
    rfl

/-- What becomes of a leaf of an object that is sent to a method that updates fields. -/
structure Receives (request : Request) (message : MessageDecl) (plan : MethodPlan)
    (members : List (String × Json)) (names : List String) : Prop where
  /-- Declared fields lead to the leaf. -/
  declared : ∃ trail, Trail request message trail ∧ trailNames trail = names
  /-- Its path is listed if it is that of a trail that unfolds, and only then. -/
  listed : (∃ id, (Text.join "." names, id) ∈ plan.fieldIds) ↔ ∃ trail, Trail request message trail ∧
    Unfolds trail ∧ Text.join "." (trailNames trail) = Text.join "." names
  /-- The handler derives the mask if there is an entry for the leaf. -/
  derives : ∀ id, (Text.join "." names, id) ∈ plan.fieldIds → plan.derivesMask = true
  /-- If the object has no list of fields of its own, the id of every entry for the leaf is put into the
  mask, which becomes the list of the object. -/
  masked : UpdateMask.Addressed names → ∀ id, (Text.join "." names, id) ∈ plan.fieldIds →
    ∀ body value, Json.parse body = .ok value → value.get? plan.inputType = some (.obj members) →
      ∃ mask, UpdateMask.apply body plan.inputType plan.fieldIds [] = .ok mask ∧ id ∈ mask ∧
        ∀ (α : Type) (type : MessageType α) (wrapper : RegionObject α), type.name = plan.inputType →
          type.fields wrapper.object = [] → UpdateMask.fill type plan.fieldIds body wrapper =
            (.ok (), ⟨wrapper.region, type.setFields mask wrapper.object⟩)

/-- **Leaves on trails that unfold are not lost.** For every request, every gateway method that updates
fields, and every object that conforms to its input: each leaf is at the end of a trail, it is listed in the
table of the method exactly if a trail with its path enters no message type twice and does not pass the
`fields` at the beginning of a message, and then its id comes into the mask. -/
theorem sent_leaf_received {method : MethodDecl} {names : List String}
    (hclassify : classify method (request.message? method.inputType) = .ok classified)
    (hplan : ofMethod request service classified first = .ok plan) (hsets : plan.setsFields = true)
    (hmessage : request.message? method.inputType = some message)
    (hconforms : Conforms request message members) (hleaf : Leaf members names) :
    Receives request message plan members names := by
  obtain rfl := classify_eq_ok hclassify
  have hids := fieldIds_eq hplan hsets hmessage
  refine ⟨hleaf.exists_trail hconforms, ?_, ?_, ?_⟩
  · rw [← FieldPath.exists_mem_all, hids]
    simp [eq_comm]
  · intro id hentry
    have hnonempty : plan.fieldIds.isEmpty = false :=
      List.isEmpty_eq_false_iff.mpr (List.ne_nil_of_mem hentry)
    simp [derivesMask, hsets, hnonempty]
  · intro haddressed id hentry body value hparse hobject
    have hsent : UpdateMask.sent? plan.inputType plan.fieldIds value =
        some (UpdateMask.select plan.fieldIds (UpdateMask.memberPaths "" members)) := by
      rw [UpdateMask.sent?, hobject]
    refine ⟨_, UpdateMask.apply_ok hparse, ?_, fun α type wrapper hname hempty => ?_⟩
    · rw [hsent, Option.getD_some, UpdateMask.mem_select]
      refine ⟨Text.join "." names, hentry, ?_⟩
      exact UpdateMask.mem_present.mpr (UpdateMask.present_leaf hleaf haddressed)
    · rw [UpdateMask.fill_parsed hempty hparse, hname, hsent]
      rfl

/-- A node with a key and, inside it, another node. -/
def node : MessageDecl :=
  ⟨"Node", [⟨"fields", 1, none⟩, ⟨"key", 2, some "NodeKey"⟩, ⟨"child", 3, some "Node"⟩], false, false, none⟩

def nodeKey : MessageDecl := ⟨"NodeKey", [⟨"name", 1, none⟩], false, false, none⟩

def updateNode : MethodDecl :=
  ⟨"UpdateNode", "Node", "Result", false, false, some "node,ActionManage,", none, none⟩

def nodes : Request := ⟨[⟨"node.proto", [⟨"NodeApi", [updateNode]⟩], [node, nodeKey]⟩], [], none⟩

theorem planned_node : ∃ classified plan, classify updateNode (nodes.message? "Node") = .ok classified ∧
    ofMethod nodes "NodeApi" classified true = .ok plan ∧ plan.setsFields = true ∧
    plan.fieldIds = [("key", "2"), ("key.name", "2.1"), ("child", "3")] := by
  have hplan : ((classify updateNode (nodes.message? "Node")).toOption.bind fun classified =>
      (ofMethod nodes "NodeApi" classified true).toOption).map
        (fun plan => (plan.setsFields, plan.fieldIds)) =
      some (true, [("key", "2"), ("key.name", "2.1"), ("child", "3")]) := by decide +kernel
  cases hclassify : classify updateNode (nodes.message? "Node") with
  | error error => rw [hclassify] at hplan; cases hplan
  | ok classified =>
      rw [hclassify] at hplan
      cases hmade : ofMethod nodes "NodeApi" classified true with
      | error error => simp [Except.toOption, hmade] at hplan
      | ok plan =>
          simp only [Except.toOption, hmade, Option.bind_some, Option.map_some, Option.some.injEq,
            Prod.mk.injEq] at hplan
          exact ⟨classified, plan, rfl, hmade, hplan⟩

/-- The object of a node that has a key. -/
def keyedNode : List (String × Json) := [("key", .obj [("name", .str "n")])]

theorem conforms_keyedNode : Conforms nodes node keyedNode := by
  have hname : (⟨"name", 1, none⟩ : FieldDecl) ∈ nodeKey.fields := by decide
  have hkey : (⟨"key", 2, some "NodeKey"⟩ : FieldDecl) ∈ node.fields := by decide
  have htype : nodes.fieldMessage? ⟨"key", 2, some "NodeKey"⟩ = some nodeKey := by decide +kernel
  exact .cons hkey (.object htype (.cons hname (.leaf trivial) .nil)) .nil

/-- The name in the key of a node comes into the mask. -/
theorem sent_leaf_received_key : ∃ classified plan,
    classify updateNode (nodes.message? updateNode.inputType) = .ok classified ∧
    ofMethod nodes "NodeApi" classified true = .ok plan ∧ plan.setsFields = true ∧
    nodes.message? updateNode.inputType = some node ∧ Conforms nodes node keyedNode ∧
    Leaf keyedNode ["key", "name"] ∧ Receives nodes node plan keyedNode ["key", "name"] ∧
    UpdateMask.Addressed ["key", "name"] ∧ ("key.name", "2.1") ∈ plan.fieldIds := by
  obtain ⟨classified, plan, hclassify, hplan, hsets, hids⟩ := planned_node
  have hmessage : nodes.message? updateNode.inputType = some node := by decide +kernel
  have hleaf : Leaf keyedNode ["key", "name"] :=
    .inside List.mem_cons_self (.here List.mem_cons_self trivial)
  refine ⟨classified, plan, hclassify, hplan, hsets, hmessage, conforms_keyedNode, hleaf,
    sent_leaf_received hclassify hplan hsets hmessage conforms_keyedNode hleaf, ?_, ?_⟩
  · exact ⟨by decide +kernel, by decide +kernel⟩
  · rw [hids]
    simp

/-- The object of a node that has a node with a key inside it. -/
def nestedNode : List (String × Json) := [("child", .obj keyedNode)]

/-- A leaf in a message inside itself is lost: no entry of the table has its path. -/
theorem nested_leaf_not_listed : ∃ classified plan,
    classify updateNode (nodes.message? updateNode.inputType) = .ok classified ∧
    ofMethod nodes "NodeApi" classified true = .ok plan ∧ plan.setsFields = true ∧
    nodes.message? updateNode.inputType = some node ∧ Conforms nodes node nestedNode ∧
    Leaf nestedNode ["child", "key", "name"] ∧
    ∀ id, (Text.join "." ["child", "key", "name"], id) ∉ plan.fieldIds := by
  obtain ⟨classified, plan, hclassify, hplan, hsets, hids⟩ := planned_node
  have hmessage : nodes.message? updateNode.inputType = some node := by decide +kernel
  have hchild : (⟨"child", 3, some "Node"⟩ : FieldDecl) ∈ node.fields := by decide
  have hconforms : Conforms nodes node nestedNode := .cons hchild (.object hmessage conforms_keyedNode) .nil
  have hleaf : Leaf nestedNode ["child", "key", "name"] :=
    .inside List.mem_cons_self (.inside List.mem_cons_self (.here List.mem_cons_self trivial))
  refine ⟨classified, plan, hclassify, hplan, hsets, hmessage, hconforms, hleaf, ?_⟩
  intro id
  rw [hids]
  simp [Text.join]

end MethodPlan

end RegionGateway
