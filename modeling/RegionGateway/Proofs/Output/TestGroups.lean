import Mathlib.Data.List.Perm.Basic
import RegionGateway.Output.PermissionTest
import RegionGateway.Proofs.Interface.Requests

/-!
# The permission tests of a service

* `Verb.ofName_eq_create`, `Verb.ofName_eq_delete`: the verb of a name is its first word;
* `MessageTests.place_groupsOf`, `MessageTests.ofService_eq`: where the methods are placed one after the
  other, the groups are at any time those of the methods read so far;
* `MessageTests.ofService_once`, `MessageTests.messages_ofService`: every method that wants tests is
  in one group, and the groups stand in the order in which their messages are used first.

Together: `MessageTests.groups_partition_methods`.
-/

namespace RegionGateway

/-! ## Distinct elements -/

namespace Route

variable {α : Type} [DecidableEq α]

/-- One more element at the end is new or not. -/
theorem distinct_concat (seen as : List α) (a : α) :
    distinct seen (as ++ [a]) =
      if a ∈ as ∨ a ∈ seen then distinct seen as else distinct seen as ++ [a] := by
  induction as generalizing seen with
  | nil =>
      by_cases h : a ∈ seen <;> simp [distinct, h]
  | cons first as ih =>
      rw [List.cons_append, distinct, distinct]
      by_cases hseen : first ∈ seen
      · rw [if_pos hseen, if_pos hseen, ih]
        grind
      · rw [if_neg hseen, if_neg hseen, ih]
        grind

/-- Distinct elements keep the order of their first occurrences. -/
theorem pairwise_distinct (seen as : List α) :
    (distinct seen as).Pairwise fun a b => as.idxOf a < as.idxOf b := by
  induction as generalizing seen with
  | nil => exact List.Pairwise.nil
  | cons first as ih =>
      -- what comes later is not `first`, and stands one place further than in the rest
      have hlater : ∀ {others : List α}, first ∈ others →
          (distinct others as).Pairwise fun a b =>
            (first :: as).idxOf a < (first :: as).idxOf b := by
        intro others hfirst
        refine (ih others).imp_of_mem fun ha hb hab => ?_
        have hne : ∀ {a}, a ∈ distinct others as → first ≠ a := fun ha h =>
          (mem_distinct.mp ha).2 (h ▸ hfirst)
        rw [List.idxOf_cons_ne _ (hne ha), List.idxOf_cons_ne _ (hne hb)]
        exact Nat.succ_lt_succ hab
      rw [distinct]
      split
      next hseen => exact hlater hseen
      next =>
        refine List.pairwise_cons.mpr ⟨fun b hb => ?_, hlater List.mem_cons_self⟩
        have hne : first ≠ b := fun h => (mem_distinct.mp hb).2 (h ▸ List.mem_cons_self)
        rw [List.idxOf_cons_self, List.idxOf_cons_ne _ hne]
        exact Nat.succ_pos _

end Route

/-! ## The verb of a name -/

namespace Verb

/-- A name begins with a word: behind it comes an ASCII capital or nothing. -/
def Leads (word name : String) : Prop :=
  word.toList <+: name.toList ∧ ∀ c ∈ (name.toList.drop word.toList.length).head?, c.isUpper = true

instance (word name : String) : Decidable (Leads word name) := inferInstanceAs (Decidable (_ ∧ _))

/-- The first word of a name is a word without further capitals that leads the name. -/
theorem firstWord_eq {word name : String} {c : Char} {rest : List Char} (hword : word.toList = c :: rest)
    (hrest : rest.all (fun d => !d.isUpper) = true) : firstWord name = word ↔ Leads word name := by
  unfold firstWord Leads
  rw [hword]
  cases hname : name.toList with
  | nil =>
      refine iff_of_false (fun h => ?_) fun h => by simpa using h.1
      rw [← h] at hword
      exact List.cons_ne_nil _ _ hword.symm
  | cons d others =>
      have hof : (String.ofList (d :: others.takeWhile fun d => !d.isUpper) = word) ↔
          d = c ∧ (others.takeWhile fun d => !d.isUpper) = rest := by
        rw [← String.toList_inj, hword, String.toList_ofList, List.cons.injEq]
      simp only [hof, List.cons_prefix_cons, List.length_cons, List.drop_succ_cons]
      constructor
      · rintro ⟨rfl, rfl⟩
        refine ⟨⟨rfl, List.takeWhile_prefix _⟩, fun e he => ?_⟩
        have hdrop := congrArg (List.drop (others.takeWhile fun d => !d.isUpper).length)
          (List.takeWhile_append_dropWhile (p := fun d => !d.isUpper) (l := others))
        rw [List.drop_left] at hdrop
        have hhead := List.head?_dropWhile_not (fun d : Char => !d.isUpper) others
        rw [hdrop, Option.mem_def.mp he] at hhead
        simpa using hhead
      · rintro ⟨⟨rfl, tail, rfl⟩, hhead⟩
        refine ⟨rfl, ?_⟩
        rw [List.takeWhile_append_of_pos (List.all_eq_true.mp hrest)]
        cases tail with
        | nil => simp
        | cons e tail =>
            have : e.isUpper = true := hhead e (by simp)
            simp [this]

theorem ofName_eq_create (name : String) : ofName name = .create ↔ Leads "Create" name := by
  have hword : "Create".toList = 'C' :: ['r', 'e', 'a', 't', 'e'] := rfl
  rw [← firstWord_eq hword (by decide), ofName]
  split <;> simp_all

theorem ofName_eq_delete (name : String) : ofName name = .delete ↔ Leads "Delete" name := by
  have hword : "Delete".toList = 'D' :: ['e', 'l', 'e', 't', 'e'] := rfl
  rw [← firstWord_eq hword (by decide), ofName]
  split <;> simp_all

/-! The place of a verb tells creations and deletions from the rest. -/

theorem runOrder_beq_zero (verb : Verb) : (verb.runOrder == 0) = decide (verb = .create) := by
  cases verb <;> rfl

theorem runOrder_beq_one (verb : Verb) :
    (verb.runOrder == 1) = decide (¬verb = .create ∧ ¬verb = .delete) := by
  cases verb <;> rfl

theorem runOrder_beq_two (verb : Verb) : (verb.runOrder == 2) = decide (verb = .delete) := by
  cases verb <;> rfl

theorem runOrder_cases (verb : Verb) :
    verb.runOrder = 0 ∨ verb.runOrder = 1 ∨ verb.runOrder = 2 := by
  cases verb <;> decide

end Verb

/-! ## Things in the order in which they run -/

/-- The things whose method creates, those whose method neither creates nor deletes, and those whose
method deletes. -/
theorem sortByRunOrder_eq (name : α → String) (items : List α) :
    sortByRunOrder name items =
      items.filter (fun item => Verb.Leads "Create" (name item)) ++
        items.filter (fun item => ¬Verb.Leads "Create" (name item) ∧ ¬Verb.Leads "Delete" (name item)) ++
        items.filter (fun item => Verb.Leads "Delete" (name item)) := by
  simp only [sortByRunOrder, Verb.runOrder_beq_zero, Verb.runOrder_beq_one, Verb.runOrder_beq_two,
    ← Verb.ofName_eq_create, ← Verb.ofName_eq_delete]

/-- Nothing is lost by sorting, and nothing doubled. -/
theorem sortByRunOrder_perm (name : α → String) (items : List α) :
    (sortByRunOrder name items).Perm items := by
  induction items with
  | nil => exact .refl _
  | cons item items ih =>
      unfold sortByRunOrder at ih ⊢
      obtain h | h | h := (Verb.ofName (name item)).runOrder_cases
      all_goals simp only [List.filter_cons, h, beq_self_eq_true, Nat.reduceBEq, if_true,
        Bool.false_eq_true, if_false, List.append_assoc, List.cons_append] at ih ⊢
      · exact ih.cons item
      · exact List.perm_middle.trans (ih.cons item)
      · rw [← List.append_assoc] at ih ⊢
        exact List.perm_middle.trans (ih.cons item)

namespace MessageTests

variable (request : Request) (inputs : InputIndex)

/-- Tests are generated for inputs of gateway methods that are declared by messages that want tests. -/
theorem wanted_iff (plan : MethodPlan) :
    wanted request inputs plan = true ↔ plan.inputType ∈ inputs.uses.map (·.1) ∧
      ∃ message, request.message? plan.inputType = some message ∧ message.isTestEligible = true := by
  cases hmessage : request.message? plan.inputType <;>
    simp [wanted, InputIndex.isInput, InputIndex.servicesOf, hmessage]

/-! ## One method after the other -/

/-- The tests of a message among methods, in declaration order. -/
def gathered (service : String) (methods : List MethodPlan) (message : String) : MessageTests :=
  let takers := methods.filter (·.inputType == message)
  { opened service inputs message with
    guarded := takers.filter fun plan => !plan.streamsView
    views := takers.filter fun plan => plan.streamsView }

/-- The groups of methods before they are sorted. -/
def groupsOf (service : String) (methods : List MethodPlan) : List MessageTests :=
  (Route.distinct [] (methods.map (·.inputType))).map (gathered inputs service methods)

theorem gathered_concat (service : String) (methods : List MethodPlan) (plan : MethodPlan)
    (message : String) :
    gathered inputs service (methods ++ [plan]) message =
      if message = plan.inputType then add plan (gathered inputs service methods message)
      else gathered inputs service methods message := by
  by_cases hmessage : message = plan.inputType
  · subst hmessage
    cases hview : plan.streamsView <;> simp [gathered, add, hview]
  · have hother : ¬plan.inputType = message := fun h => hmessage h.symm
    simp [gathered, hmessage, hother]

/-- A message that no method takes has no tests. -/
theorem gathered_of_unused {service : String} {methods : List MethodPlan} {message : String}
    (h : message ∉ methods.map (·.inputType)) :
    gathered inputs service methods message = opened service inputs message := by
  have hnone : methods.filter (·.inputType == message) = [] := by
    refine List.filter_eq_nil_iff.mpr fun plan hplan hsame => h ?_
    exact List.mem_map.mpr ⟨plan, hplan, beq_iff_eq.mp hsame⟩
  simp [gathered, opened, hnone]

/-- A method is placed in the first group of its input, which is the only one, or in a new one. -/
theorem place_gathered (service : String) (methods : List MethodPlan) (plan : MethodPlan)
    {messages : List String} (hmessages : messages.Nodup) :
    place service inputs plan (messages.map (gathered inputs service methods)) =
      messages.map (gathered inputs service (methods ++ [plan])) ++
        if plan.inputType ∈ messages then [] else [add plan (opened service inputs plan.inputType)] := by
  induction messages with
  | nil => simp [place]
  | cons message messages ih =>
      obtain ⟨hnew, hrest⟩ := List.nodup_cons.mp hmessages
      rw [List.map_cons, List.map_cons, place, gathered_concat]
      have hname : (gathered inputs service methods message).message = message := rfl
      by_cases hmessage : message = plan.inputType
      · have hothers : messages.map (gathered inputs service (methods ++ [plan])) =
            messages.map (gathered inputs service methods) := by
          refine List.map_congr_left fun other hother => ?_
          have hne : other ≠ plan.inputType := fun h => hnew (hmessage.trans h.symm ▸ hother)
          rw [gathered_concat, if_neg hne]
        rw [hname, if_pos hmessage, if_pos hmessage, if_pos (hmessage ▸ List.mem_cons_self), hothers,
          List.append_nil]
      · rw [hname, if_neg hmessage, if_neg hmessage, ih hrest, List.cons_append]
        simp [Ne.symm hmessage]

/-- What the loop over the methods keeps: the groups are those of the methods read so far. -/
theorem place_groupsOf (service : String) (methods : List MethodPlan) (plan : MethodPlan) :
    place service inputs plan (groupsOf inputs service methods) =
      groupsOf inputs service (methods ++ [plan]) := by
  rw [groupsOf, groupsOf, place_gathered inputs service methods plan (Route.nodup_distinct _ _),
    List.map_append, List.map_singleton, Route.distinct_concat]
  by_cases hused : plan.inputType ∈ methods.map (·.inputType)
  · rw [if_pos (Route.mem_distinct.mpr ⟨hused, List.not_mem_nil⟩), if_pos (.inl hused), List.append_nil]
  · have hnew : plan.inputType ∉ Route.distinct [] (methods.map (·.inputType)) :=
      fun h => hused (Route.mem_distinct.mp h).1
    rw [if_neg hnew, if_neg (by simpa using hused), List.map_append, List.map_singleton, gathered_concat,
      if_pos rfl, gathered_of_unused inputs hused]

/-- The run of the loop, begun when some methods are read already. -/
theorem foldl_place (service : String) (methods rest : List MethodPlan) :
    rest.foldl (fun groups plan => place service inputs plan groups) (groupsOf inputs service methods) =
      groupsOf inputs service (methods ++ rest) := by
  induction rest generalizing methods with
  | nil => rw [List.foldl_nil, List.append_nil]
  | cons plan rest ih =>
      rw [List.foldl_cons, place_groupsOf, ih, List.append_assoc, List.singleton_append]

/-- The tests of a message among methods, in the order in which they run. -/
def ofMessage (service : String) (methods : List MethodPlan) (message : String) : MessageTests :=
  (gathered inputs service methods message).inRunOrder

/-- The loop over the methods of a service ends with one group for each input that wants tests. -/
theorem ofService_eq (service : ServicePlan) :
    ofService request inputs service =
      (Route.distinct [] ((service.methods.filter (wanted request inputs)).map (·.inputType))).map
        (ofMessage inputs service.name (service.methods.filter (wanted request inputs))) := by
  have hloop := foldl_place inputs service.name [] (service.methods.filter (wanted request inputs))
  rw [List.foldl_filter] at hloop
  rw [ofService, show ([] : List MessageTests) = groupsOf inputs service.name [] from rfl, hloop, groupsOf,
    List.map_map]
  rfl

/-! ## What is in the groups -/

variable {request : Request} {inputs : InputIndex}

/-- The tests of a message are all methods that take it. -/
theorem ofMessage_perm (service : String) (methods : List MethodPlan) (message : String) :
    ((ofMessage inputs service methods message).guarded ++
      (ofMessage inputs service methods message).views).Perm
        (methods.filter (·.inputType == message)) := by
  have hsorted := (sortByRunOrder_perm MethodPlan.method
    ((methods.filter (·.inputType == message)).filter fun plan => !plan.streamsView)).append_right
      ((methods.filter (·.inputType == message)).filter fun plan => plan.streamsView)
  refine hsorted.trans (List.perm_append_comm.trans ?_)
  exact List.filter_append_perm (fun plan : MethodPlan => plan.streamsView) _

/-- The messages of the tests, by first use. -/
theorem messages_ofService (service : ServicePlan) :
    (ofService request inputs service).map (·.message) =
      Route.distinct [] ((service.methods.filter (wanted request inputs)).map (·.inputType)) := by
  rw [ofService_eq, List.map_map]
  exact List.map_id _

/-- Methods with one of several distinct inputs, gathered input by input. -/
theorem flatMap_takers_perm {messages : List String} (hmessages : messages.Nodup)
    (methods : List MethodPlan) :
    (messages.flatMap fun message => methods.filter (·.inputType == message)).Perm
      (methods.filter fun plan => plan.inputType ∈ messages) := by
  induction messages with
  | nil => simp
  | cons message messages ih =>
      obtain ⟨hnew, hrest⟩ := List.nodup_cons.mp hmessages
      -- among the methods with any of the inputs, those with the first and the others
      have hsplit := List.filter_append_perm (fun plan : MethodPlan => plan.inputType == message)
        (methods.filter fun plan => plan.inputType ∈ message :: messages)
      rw [List.filter_filter, List.filter_filter] at hsplit
      have hfirst : methods.filter (fun plan : MethodPlan => plan.inputType == message &&
          decide (plan.inputType ∈ message :: messages)) = methods.filter (·.inputType == message) :=
        List.filter_congr fun plan _ => by
          by_cases h : plan.inputType = message <;> simp [h]
      have hothers : methods.filter (fun plan : MethodPlan => !(plan.inputType == message) &&
          decide (plan.inputType ∈ message :: messages)) =
            methods.filter fun plan => plan.inputType ∈ messages :=
        List.filter_congr fun plan _ => by
          by_cases h : plan.inputType = message <;> simp [h, hnew]
      rw [hfirst, hothers] at hsplit
      rw [List.flatMap_cons]
      exact ((ih hrest).append_left _).trans hsplit

/-- Every method that wants tests is in one group, once. -/
theorem ofService_once (service : ServicePlan) :
    ((ofService request inputs service).flatMap fun tests => tests.guarded ++ tests.views).Perm
      (service.methods.filter (wanted request inputs)) := by
  have hgroups : ∀ messages : List String,
      ((messages.map (ofMessage inputs service.name (service.methods.filter (wanted request inputs)))).flatMap
        fun tests => tests.guarded ++ tests.views).Perm
      (messages.flatMap fun message =>
        (service.methods.filter (wanted request inputs)).filter (·.inputType == message)) := by
    intro messages
    rw [List.flatMap_map]
    exact List.Perm.flatMap_left _ fun message _ => ofMessage_perm _ _ message
  rw [ofService_eq]
  refine (hgroups _).trans ((flatMap_takers_perm (Route.nodup_distinct _ _) _).trans (.of_eq ?_))
  refine List.filter_eq_self.mpr fun plan hplan => decide_eq_true ?_
  exact Route.mem_distinct.mpr ⟨List.mem_map_of_mem hplan, List.not_mem_nil⟩

/-- The methods of a service that want tests and take a message, those that stream views or those
that do not. -/
def takers (request : Request) (inputs : InputIndex) (service : ServicePlan) (message : String)
    (view : Bool) : List MethodPlan :=
  service.methods.filter fun plan =>
    wanted request inputs plan && plan.inputType == message && plan.streamsView == view

/-- **The groups partition the methods that want tests.** A method wants tests if a gateway method
takes its input and that is declared by a message that wants them. These methods, and no others, are
in the groups of a service, each once and in the group of its input. The messages of the groups are
different, and they are the inputs of these methods in the order of their first use. In a group the
views stand in declaration order; the other methods are those whose name begins with `Create`, then
those with neither, then those with `Delete`, each in declaration order. -/
theorem groups_partition_methods (request : Request) (inputs : InputIndex) (service : ServicePlan) :
    let used := (service.methods.filter (wanted request inputs)).map (·.inputType)
    let groups := ofService request inputs service
    (∀ plan, wanted request inputs plan = true ↔ plan.inputType ∈ inputs.uses.map (·.1) ∧
        ∃ message, request.message? plan.inputType = some message ∧ message.isTestEligible = true) ∧
      (groups.flatMap fun tests => tests.guarded ++ tests.views).Perm
        (service.methods.filter (wanted request inputs)) ∧
      (∀ tests ∈ groups, ∀ plan ∈ tests.guarded ++ tests.views, plan.inputType = tests.message) ∧
      (groups.map (·.message)).Nodup ∧
      (∀ message, message ∈ groups.map (·.message) ↔ message ∈ used) ∧
      (groups.map (·.message)).Pairwise (fun a b => used.idxOf a < used.idxOf b) ∧
      ∀ tests ∈ groups,
        let changes := takers request inputs service tests.message false
        tests.views = takers request inputs service tests.message true ∧
        tests.guarded =
          changes.filter (fun plan => Verb.Leads "Create" plan.method) ++
            changes.filter (fun plan =>
              ¬Verb.Leads "Create" plan.method ∧ ¬Verb.Leads "Delete" plan.method) ++
            changes.filter (fun plan => Verb.Leads "Delete" plan.method) := by
  have htakers : ∀ (message : String) (view : Bool),
      ((service.methods.filter (wanted request inputs)).filter (·.inputType == message)).filter
        (·.streamsView == view) = takers request inputs service message view := by
    intro message view
    rw [List.filter_filter, List.filter_filter]
    refine List.filter_congr fun plan _ => ?_
    cases wanted request inputs plan <;> cases plan.inputType == message <;> simp
  refine ⟨wanted_iff request inputs, ofService_once service, fun tests htests plan hplan => ?_, ?_,
    fun message => ?_, ?_, fun tests htests => ?_⟩
  · rw [ofService_eq] at htests
    obtain ⟨message, -, rfl⟩ := List.mem_map.mp htests
    have := (ofMessage_perm service.name _ message).mem_iff.mp hplan
    exact beq_iff_eq.mp (List.mem_filter.mp this).2
  · rw [messages_ofService]
    exact Route.nodup_distinct _ _
  · rw [messages_ofService, Route.mem_distinct]
    exact and_iff_left List.not_mem_nil
  · rw [messages_ofService]
    exact Route.pairwise_distinct _ _
  · rw [ofService_eq] at htests
    obtain ⟨message, -, rfl⟩ := List.mem_map.mp htests
    have hmessage : (ofMessage inputs service.name (service.methods.filter (wanted request inputs))
      message).message = message := rfl
    constructor
    · rw [hmessage, ← htakers]
      simp [ofMessage, inRunOrder, gathered]
    · rw [hmessage, ← sortByRunOrder_eq, ← htakers]
      simp [ofMessage, inRunOrder, gathered]

end MessageTests

end RegionGateway
