import RegionGateway.Proofs.Interface.FieldChains

/-!
# Trails of fields

A trail leads from a message along declared fields, whatever their positions. The trails that enter no message
type twice and pass listed fields only are those of chains without repetitions (`exists_chain_iff`), hence the
fields reachable from a message are those at their ends (`exists_mem_all`).
-/

namespace RegionGateway

/-- A field of a message on the way along fields. -/
structure Step where
  message : MessageDecl
  field : FieldDecl

/-- A way along declared fields from a message. -/
inductive Trail (request : Request) : MessageDecl → List Step → Prop
  | last {message field} (declared : field ∈ message.fields) : Trail request message [⟨message, field⟩]
  | into {message field inner steps} (declared : field ∈ message.fields)
      (type : request.fieldMessage? field = some inner) (rest : Trail request inner steps) :
      Trail request message (⟨message, field⟩ :: steps)

/-- The names on the way, as declared. -/
def trailNames (trail : List Step) : List String := trail.map (·.field.name)

/-- The way enters no message type twice, and does not pass the list of updated fields with which a message
begins. -/
structure Unfolds (trail : List Step) : Prop where
  once : (trail.map (·.message.name)).Nodup
  listed : ∀ step ∈ trail, step.field ∈ FieldPath.listed step.message

variable {request : Request} {message : MessageDecl}

/-- The step at a place. -/
def FieldPlace.step (place : FieldPlace) : Step := ⟨place.message, place.field⟩

/-- A step that is listed is at a place that is listed. -/
theorem FieldPlace.exists_step {field : FieldDecl} (h : field ∈ FieldPath.listed message) :
    ∃ place ∈ listed message, place.step = ⟨message, field⟩ := by
  rw [← map_field_listed] at h
  obtain ⟨place, hplace, rfl⟩ := List.mem_map.mp h
  exact ⟨place, hplace, congrArg (Step.mk · place.field) (mem_listed.mp hplace).1⟩

namespace RepeatFree

variable {chain : List FieldPlace}

theorem map_step_name (chain : List FieldPlace) :
    (chain.map FieldPlace.step).map (·.message.name) = chain.map (·.message.name) := by
  rw [List.map_map]
  rfl

/-- The steps of a chain are a trail. -/
theorem trail (h : RepeatFree request message chain) : Trail request message (chain.map FieldPlace.step) := by
  induction chain generalizing message with
  | nil => exact absurd rfl h.ne_nil
  | cons place rest ih =>
      obtain rfl : place.message = message := Option.some.inj h.starts
      by_cases hrest : rest = []
      · subst hrest
        exact .last place.field_mem
      · obtain ⟨-, inner, htype, hinner, -⟩ := (cons_iff hrest).mp h
        exact .into place.field_mem htype (ih hinner)

theorem unfolds (h : RepeatFree request message chain) : Unfolds (chain.map FieldPlace.step) := by
  refine ⟨map_step_name chain ▸ h.once, ?_⟩
  rw [List.forall_mem_map]
  intro place hplace
  rw [← FieldPlace.map_field_listed]
  exact List.mem_map_of_mem (FieldPlace.mem_listed.mpr ⟨rfl, h.unmasked place hplace⟩)

end RepeatFree

/-- Trails that unfold are those of chains without repetitions. -/
theorem exists_chain_iff {trail : List Step} : (∃ chain, RepeatFree request message chain ∧
    chain.map FieldPlace.step = trail) ↔ Trail request message trail ∧ Unfolds trail := by
  constructor
  · rintro ⟨chain, hchain, rfl⟩
    exact ⟨hchain.trail, hchain.unfolds⟩
  · rintro ⟨htrail, hunfolds⟩
    induction htrail with
    | last hdeclared =>
        obtain ⟨place, hplace, hstep⟩ := FieldPlace.exists_step (hunfolds.listed _ List.mem_cons_self)
        exact ⟨[place], RepeatFree.singleton_iff.mpr hplace, congrArg ([·]) hstep⟩
    | @into message field inner steps hdeclared htype hrest ih =>
        obtain ⟨hfirst, hlisted⟩ := List.forall_mem_cons.mp hunfolds.listed
        obtain ⟨hnew, honce⟩ := List.nodup_cons.mp hunfolds.once
        obtain ⟨place, hplace, hstep⟩ := FieldPlace.exists_step hfirst
        obtain ⟨chain, hchain, rfl⟩ := ih ⟨honce, hlisted⟩
        refine ⟨place :: chain, (RepeatFree.cons_iff hchain.ne_nil).mpr ⟨hplace, inner, ?_, hchain, ?_⟩,
          congrArg (· :: _) hstep⟩
        · have hfield : place.field = field := congrArg Step.field hstep
          rw [hfield]
          exact htype
        · intro next hnext hname
          rw [RepeatFree.map_step_name] at hnew
          exact hnew (List.mem_map.mpr ⟨next, hnext, hname⟩)

namespace FieldPath

/-- The paths of the fields reachable from a message are those of its trails that unfold. -/
theorem exists_mem_all {jsonPath : String} : (∃ path ∈ all request message, path.jsonPath = jsonPath) ↔
    ∃ trail, Trail request message trail ∧ Unfolds trail ∧ Text.join "." (trailNames trail) = jsonPath := by
  have hnames : ∀ chain : List FieldPlace,
      (ofChain chain).jsonPath = Text.join "." (trailNames (chain.map FieldPlace.step)) := by
    intro chain
    rw [trailNames, List.map_map]
    rfl
  rw [all_eq]
  constructor
  · rintro ⟨path, hpath, rfl⟩
    obtain ⟨chain, hchain, rfl⟩ := List.mem_map.mp hpath
    obtain ⟨htrail, hunfolds⟩ := exists_chain_iff.mp ⟨chain, mem_chains.mp hchain, rfl⟩
    exact ⟨_, htrail, hunfolds, (hnames chain).symm⟩
  · rintro ⟨trail, htrail, hunfolds, rfl⟩
    obtain ⟨chain, hchain, rfl⟩ := exists_chain_iff.mpr ⟨htrail, hunfolds⟩
    exact ⟨ofChain chain, List.mem_map_of_mem (mem_chains.mpr hchain), hnames chain⟩

end FieldPath

end RegionGateway
