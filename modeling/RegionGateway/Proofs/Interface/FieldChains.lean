import Mathlib.Data.List.FinRange
import Mathlib.Data.List.Perm.Subperm
import Mathlib.Data.List.Sort
import Mathlib.Order.Fin.Basic
import RegionGateway.Interface.FieldPath
import RegionGateway.Proofs.Text.Parts

/-!
# Chains of fields

A chain leads from a message along declared fields, each inside the message type of the one before. The list of
the fields reachable from a message has one entry for each chain that enters no message type twice and does not
pass the list of updated fields with which a message begins (`RepeatFree`, `mem_chainsBelow`), depth first in
declaration order (`pairwise_chainsBelow`). There are no more fields on such a chain than declared messages and
the one at its start (`RepeatFree.length_le`), so that the bound on the depth cuts nothing off
(`lists_repeatFree`).
-/

namespace RegionGateway

theorem Request.message?_mem {request : Request} {name : String} {message : MessageDecl}
    (h : request.message? name = some message) : message ∈ request.messages :=
  List.mem_of_find?_eq_some h

theorem Request.fieldMessage?_mem {request : Request} {field : FieldDecl} {inner : MessageDecl}
    (h : request.fieldMessage? field = some inner) : inner ∈ request.messages := by
  obtain ⟨name, -, hname⟩ := Option.bind_eq_some_iff.mp h
  exact message?_mem hname

/-- The message type of a field is one of the declared messages. -/
theorem Request.mem_of_inner {request : Request} {message inner declared : MessageDecl} {field : FieldDecl}
    (htype : request.fieldMessage? field = some inner) (h : declared ∈ inner :: request.messages) :
    declared ∈ message :: request.messages := by
  rcases List.mem_cons.mp h with rfl | h
  · exact List.mem_cons_of_mem _ (fieldMessage?_mem htype)
  · exact List.mem_cons_of_mem _ h

/-! ## Places of fields -/

/-- A field of a message, by its position. -/
structure FieldPlace where
  message : MessageDecl
  position : Fin message.fields.length

namespace FieldPlace

/-- The field at a place. -/
def field (place : FieldPlace) : FieldDecl := place.message.fields[place.position]

theorem field_mem (place : FieldPlace) : place.field ∈ place.message.fields := List.getElem_mem _

/-- Whether a place is that of the list of updated fields, with which a message begins. -/
def IsMask (place : FieldPlace) : Prop := place.position.val = 0 ∧ place.field.name = "fields"

instance : DecidablePred IsMask := fun _ => inferInstanceAs (Decidable (_ ∧ _))

/-- The places of a message, in order. -/
def ofMessage (message : MessageDecl) : List FieldPlace :=
  (List.finRange message.fields.length).map (FieldPlace.mk message)

/-- The places of a message whose fields are listed. -/
def listed (message : MessageDecl) : List FieldPlace := (ofMessage message).filter fun place => ¬ place.IsMask

variable {place : FieldPlace} {message : MessageDecl}

theorem mem_ofMessage : place ∈ ofMessage message ↔ place.message = message := by
  constructor
  · intro h
    obtain ⟨position, -, rfl⟩ := List.mem_map.mp h
    rfl
  · rintro rfl
    exact List.mem_map_of_mem (List.mem_finRange place.position)

theorem mem_listed : place ∈ listed message ↔ place.message = message ∧ ¬ place.IsMask := by
  rw [listed, List.mem_filter, mem_ofMessage, decide_eq_true_iff]

/-- The fields at the listed places are the listed fields. -/
theorem map_field_listed (message : MessageDecl) : (listed message).map field = FieldPath.listed message := by
  obtain ⟨name, fields, test, showTest, usesOrg⟩ := message
  cases fields with
  | nil => rfl
  | cons first rest =>
      -- only the first place can be left out
      let message : MessageDecl := ⟨name, first :: rest, test, showTest, usesOrg⟩
      have hrest : ((List.finRange rest.length).map fun position => FieldPlace.mk message position.succ).filter
          (fun place => ¬ place.IsMask) =
            (List.finRange rest.length).map fun position => FieldPlace.mk message position.succ := by
        rw [List.filter_eq_self]
        intro place hplace
        obtain ⟨position, -, rfl⟩ := List.mem_map.mp hplace
        simp [IsMask]
      have hfields : ((List.finRange rest.length).map fun position => FieldPlace.mk message position.succ).map
          field = rest := by
        rw [List.map_map]
        exact List.map_getElem_finRange rest
      have hplaces : ofMessage message = ⟨message, ⟨0, Nat.zero_lt_succ _⟩⟩ ::
          (List.finRange rest.length).map fun position => FieldPlace.mk message position.succ := by
        rw [ofMessage]
        show (List.finRange (rest.length + 1)).map _ = _
        rw [List.finRange_succ, List.map_cons, List.map_map]
        rfl
      show (listed message).map field = FieldPath.listed message
      rw [listed, hplaces, List.filter_cons, hrest]
      by_cases hmask : first.name = "fields"
      · simp [IsMask, field, message, FieldPath.listed, hmask, hfields]
      · simp [IsMask, field, message, FieldPath.listed, hmask, hfields]

/-- The places of a message come in the order of their positions. -/
theorem pairwise_listed (message : MessageDecl) :
    (listed message).Pairwise fun place next => place.position.val < next.position.val := by
  refine List.Pairwise.filter _ ?_
  rw [ofMessage, List.pairwise_map]
  exact List.pairwise_lt_finRange _

end FieldPlace

/-! ## Chains without repetitions -/

/-- A way along declared fields from a message: each field is one of the message type of the one before. No
two of the messages have the same name, and no field is the list of updated fields with which its message
begins. -/
structure RepeatFree (request : Request) (message : MessageDecl) (chain : List FieldPlace) : Prop where
  starts : chain.head?.map (·.message) = some message
  follows : chain.IsChain fun place next => request.fieldMessage? place.field = some next.message
  once : (chain.map (·.message.name)).Nodup
  unmasked : ∀ place ∈ chain, ¬ place.IsMask

variable {request : Request} {message inner : MessageDecl} {place : FieldPlace} {chain : List FieldPlace}

namespace RepeatFree

theorem ne_nil (h : RepeatFree request message chain) : chain ≠ [] := by
  rintro rfl
  cases h.starts

theorem singleton_iff : RepeatFree request message [place] ↔ place ∈ FieldPlace.listed message := by
  rw [FieldPlace.mem_listed]
  constructor
  · intro h
    exact ⟨Option.some.inj h.starts, h.unmasked place List.mem_cons_self⟩
  · rintro ⟨rfl, hplace⟩
    exact ⟨rfl, .singleton place, List.nodup_singleton _, by simpa using hplace⟩

theorem cons_iff (hchain : chain ≠ []) : RepeatFree request message (place :: chain) ↔
    place ∈ FieldPlace.listed message ∧ ∃ inner, request.fieldMessage? place.field = some inner ∧
      RepeatFree request inner chain ∧ ∀ next ∈ chain, next.message.name ≠ message.name := by
  obtain ⟨next, rest, rfl⟩ := List.exists_cons_of_ne_nil hchain
  rw [FieldPlace.mem_listed]
  constructor
  · intro h
    obtain ⟨hfirst, hrest⟩ := List.forall_mem_cons.mp h.unmasked
    obtain ⟨htype, hfollows⟩ := List.isChain_cons_cons.mp h.follows
    obtain ⟨hnew, honce⟩ := List.nodup_cons.mp h.once
    have hplace : place.message = message := Option.some.inj h.starts
    refine ⟨⟨hplace, hfirst⟩, next.message, htype, ⟨rfl, hfollows, honce, hrest⟩, ?_⟩
    intro later hlater hname
    exact hnew (List.mem_map.mpr ⟨later, hlater, hname.trans (congrArg MessageDecl.name hplace.symm)⟩)
  · rintro ⟨⟨rfl, hfirst⟩, inner, htype, hrest, hnew⟩
    have hinner : next.message = inner := Option.some.inj hrest.starts
    refine ⟨rfl, List.isChain_cons_cons.mpr ⟨by rw [htype, hinner], hrest.follows⟩, ?_, ?_⟩
    · rw [List.map_cons, List.nodup_cons]
      refine ⟨?_, hrest.once⟩
      intro hagain
      obtain ⟨later, hlater, hname⟩ := List.mem_map.mp hagain
      exact hnew later hlater hname
    · exact List.forall_mem_cons.mpr ⟨hfirst, hrest.unmasked⟩

/-- Every message on the way but the first one is declared. -/
theorem mem_messages (h : RepeatFree request message (place :: chain)) :
    ∀ next ∈ chain, next.message ∈ request.messages := by
  induction chain generalizing place message with
  | nil => nofun
  | cons next rest ih =>
      obtain ⟨-, inner, htype, hrest, -⟩ := (cons_iff (List.cons_ne_nil _ _)).mp h
      refine List.forall_mem_cons.mpr ⟨?_, ih hrest⟩
      have hnext : next.message = inner := Option.some.inj hrest.starts
      rw [hnext]
      exact Request.fieldMessage?_mem htype

/-- What all fields of the messages have in common holds on the way. -/
theorem forall_field {p : FieldDecl → Prop} (h : RepeatFree request message chain)
    (hp : ∀ declared ∈ message :: request.messages, ∀ field ∈ declared.fields, p field) :
    ∀ place ∈ chain, p place.field := by
  obtain ⟨first, rest, rfl⟩ := List.exists_cons_of_ne_nil h.ne_nil
  have hfirst : first.message = message := Option.some.inj h.starts
  refine List.forall_mem_cons.mpr ⟨?_, ?_⟩
  · exact hp message List.mem_cons_self first.field (hfirst ▸ first.field_mem)
  · intro place hplace
    exact hp place.message (List.mem_cons_of_mem _ (h.mem_messages place hplace)) place.field place.field_mem

/-- There are no more fields on the way than declared messages, apart from the first one. -/
theorem length_le (h : RepeatFree request message chain) : chain.length ≤ request.messages.length + 1 := by
  obtain ⟨place, rest, rfl⟩ := List.exists_cons_of_ne_nil h.ne_nil
  have hnames : rest.map (·.message.name) ⊆ request.messages.map (·.name) := by
    intro name hname
    obtain ⟨next, hnext, rfl⟩ := List.mem_map.mp hname
    exact List.mem_map_of_mem (h.mem_messages next hnext)
  have honce : (rest.map (·.message.name)).Nodup := (List.nodup_cons.mp h.once).2
  simpa using (List.subperm_of_subset honce hnames).length_le

end RepeatFree

namespace FieldPath

/-- The chains from a message, as they are listed; `seen` are the messages on the way to it. -/
def chainsBelow (request : Request) : Nat → List String → MessageDecl → List (List FieldPlace)
  | 0, _, _ => []
  | depth + 1, seen, message =>
    if message.name ∈ seen then []
    else
      (FieldPlace.listed message).flatMap fun place =>
        [place] ::
          match request.fieldMessage? place.field with
          | none => []
          | some inner => (chainsBelow request depth (message.name :: seen) inner).map (place :: ·)

/-- What is listed at a place ends there, or goes on in the message of its field. -/
theorem mem_listedAt {depth : Nat} {seen : List String} {place : FieldPlace} : (chain ∈ [place] ::
      match request.fieldMessage? place.field with
      | none => []
      | some inner => (chainsBelow request depth seen inner).map (place :: ·)) ↔
    chain = [place] ∨ ∃ inner, request.fieldMessage? place.field = some inner ∧
      ∃ rest ∈ chainsBelow request depth seen inner, place :: rest = chain := by
  rw [List.mem_cons]
  cases request.fieldMessage? place.field with
  | none => simp
  | some inner => simp [List.mem_map]

/-- The chains listed are those without repetitions that enter no message seen before, as long as the depth
permits. -/
theorem mem_chainsBelow {depth : Nat} {seen : List String} : chain ∈ chainsBelow request depth seen message ↔
    RepeatFree request message chain ∧ (∀ place ∈ chain, place.message.name ∉ seen) ∧
      chain.length ≤ depth := by
  induction depth generalizing seen message chain with
  | zero =>
      constructor
      · intro h
        cases h
      · rintro ⟨hchain, -, hlength⟩
        exact absurd (List.eq_nil_of_length_eq_zero (Nat.le_zero.mp hlength)) hchain.ne_nil
  | succ depth ih =>
      unfold chainsBelow
      by_cases hseen : message.name ∈ seen
      · rw [if_pos hseen]
        constructor
        · intro h
          cases h
        · rintro ⟨hchain, hfresh, -⟩
          obtain ⟨place, rest, rfl⟩ := List.exists_cons_of_ne_nil hchain.ne_nil
          have hplace : place.message = message := Option.some.inj hchain.starts
          exact absurd (hplace ▸ hseen) (hfresh place List.mem_cons_self)
      · rw [if_neg hseen, List.mem_flatMap]
        constructor
        · rintro ⟨place, hlisted, hmem⟩
          have hplace := (FieldPlace.mem_listed.mp hlisted).1
          rcases mem_listedAt.mp hmem with rfl | ⟨inner, htype, rest, hrest, rfl⟩
          · refine ⟨RepeatFree.singleton_iff.mpr hlisted, ?_, by simp⟩
            simpa [hplace] using hseen
          · obtain ⟨hchain, hfresh, hlength⟩ := ih.mp hrest
            refine ⟨(RepeatFree.cons_iff hchain.ne_nil).mpr ⟨hlisted, inner, htype, hchain, ?_⟩, ?_,
              Nat.succ_le_succ hlength⟩
            · intro next hnext hname
              exact hfresh next hnext (hname ▸ List.mem_cons_self)
            · refine List.forall_mem_cons.mpr ⟨hplace ▸ hseen, ?_⟩
              exact fun next hnext hmem => hfresh next hnext (List.mem_cons_of_mem _ hmem)
        · rintro ⟨hchain, hfresh, hlength⟩
          obtain ⟨place, rest, rfl⟩ := List.exists_cons_of_ne_nil hchain.ne_nil
          by_cases hrest : rest = []
          · subst hrest
            exact ⟨place, RepeatFree.singleton_iff.mp hchain, List.mem_cons_self⟩
          · obtain ⟨hlisted, inner, htype, hinner, hnew⟩ := (RepeatFree.cons_iff hrest).mp hchain
            refine ⟨place, hlisted, mem_listedAt.mpr (.inr ⟨inner, htype, rest, ?_, rfl⟩)⟩
            refine ih.mpr ⟨hinner, ?_, Nat.le_of_succ_le_succ hlength⟩
            intro next hnext hmem
            rcases List.mem_cons.mp hmem with hname | hmem
            · exact hnew next hnext hname
            · exact hfresh next (List.mem_cons_of_mem _ hnext) hmem

/-! ## Order -/

/-- Chains are ordered by the positions of their fields, and a chain comes before those that continue it. -/
def Precedes (chain next : List FieldPlace) : Prop :=
  (chain.map fun place => place.position.val) < next.map fun place => place.position.val

theorem Precedes.cons {next : List FieldPlace} (h : Precedes chain next) :
    Precedes (place :: chain) (place :: next) :=
  List.cons_lt_cons_iff.mpr (.inr ⟨rfl, h⟩)

theorem Precedes.of_lt {other : FieldPlace} (h : place.position.val < other.position.val)
    (chain next : List FieldPlace) : Precedes (place :: chain) (other :: next) :=
  List.cons_lt_cons_iff.mpr (.inl h)

/-- Chains are listed in their order. -/
theorem pairwise_chainsBelow (depth : Nat) (seen : List String) (message : MessageDecl) :
    (chainsBelow request depth seen message).Pairwise Precedes := by
  induction depth generalizing seen message with
  | zero => exact .nil
  | succ depth ih =>
      unfold chainsBelow
      split
      · exact .nil
      · rw [List.pairwise_flatMap]
        constructor
        · intro place _
          cases request.fieldMessage? place.field with
          | none => exact List.pairwise_singleton _ _
          | some inner =>
              rw [List.pairwise_cons]
              constructor
              · intro chain hchain
                obtain ⟨rest, hrest, rfl⟩ := List.mem_map.mp hchain
                obtain ⟨next, later, rfl⟩ := List.exists_cons_of_ne_nil (mem_chainsBelow.mp hrest).1.ne_nil
                exact Precedes.cons (List.nil_lt_cons _ _)
              · rw [List.pairwise_map]
                exact (ih _ inner).imp Precedes.cons
        · -- chains from different places differ in the first position
          have hfirst : ∀ {place : FieldPlace} {chain : List FieldPlace}, (chain ∈ [place] ::
              match request.fieldMessage? place.field with
              | none => []
              | some inner => (chainsBelow request depth (message.name :: seen) inner).map (place :: ·)) →
                ∃ rest, chain = place :: rest := by
            intro place chain hchain
            rcases mem_listedAt.mp hchain with rfl | ⟨-, -, rest, -, rfl⟩
            · exact ⟨[], rfl⟩
            · exact ⟨rest, rfl⟩
          refine (FieldPlace.pairwise_listed message).imp ?_
          intro place other hlt chain hchain next hnext
          obtain ⟨rest, rfl⟩ := hfirst hchain
          obtain ⟨later, rfl⟩ := hfirst hnext
          exact Precedes.of_lt hlt rest later

/-! ## Entries -/

/-- The entry for a chain: its names in Pascal case one after the other, its names joined by dots, and its
numbers joined by dots. -/
def ofChain (chain : List FieldPlace) : FieldPath where
  name := Text.join "" (chain.map fun place => Rust.pascalCase place.field.name)
  jsonPath := Text.join "." (chain.map fun place => place.field.name)
  id := Text.join "." (chain.map fun place => String.ofList (Nat.toDigits 10 place.field.number.toNat))

/-- The entry for a way, if it has begun. -/
def ofWay : List FieldPlace → Option FieldPath
  | [] => none
  | place :: chain => some (ofChain (place :: chain))

theorem ofWay_concat (way : List FieldPlace) (place : FieldPlace) :
    ofWay (way ++ [place]) = some (ofChain (way ++ [place])) := by
  cases way <;> rfl

theorem extend_ofWay (way : List FieldPlace) (place : FieldPlace) :
    extend (ofWay way) place.field = ofChain (way ++ [place]) := by
  cases way with
  | nil => rfl
  | cons first way =>
      have hne : ∀ label : FieldPlace → String, (first :: way).map label ≠ [] := by simp
      simp only [ofWay, extend, ofChain, List.map_append, List.map_singleton, Text.join_concat (hne _),
        String.append_empty]

/-- The fields reachable from a message at the end of a way are the entries for the way and the chains from
the message. -/
theorem below_eq (depth : Nat) (seen : List String) (way : List FieldPlace) (message : MessageDecl) :
    below request depth seen (ofWay way) message =
      (chainsBelow request depth seen message).map fun chain => ofChain (way ++ chain) := by
  induction depth generalizing seen way message with
  | zero => rfl
  | succ depth ih =>
      unfold below chainsBelow
      split
      · rfl
      · rw [← FieldPlace.map_field_listed, List.flatMap_map, List.map_flatMap]
        refine List.flatMap_congr fun place _ => ?_
        dsimp only
        rw [extend_ofWay, List.map_cons]
        congr 1
        cases request.fieldMessage? place.field with
        | none => rfl
        | some inner =>
            have hinner := ih (message.name :: seen) (way ++ [place]) inner
            rw [ofWay_concat] at hinner
            simpa [List.append_assoc, Function.comp_def] using hinner

/-! ## The list of fields -/

/-- What is listed of the fields reachable from a message. -/
structure Lists (request : Request) (message : MessageDecl) (chains : List (List FieldPlace)) : Prop where
  /-- The chains are those without repetitions. -/
  mem_iff : ∀ chain, chain ∈ chains ↔ RepeatFree request message chain
  once : chains.Nodup
  /-- Depth first in declaration order. -/
  ordered : chains.Pairwise Precedes
  /-- There is an entry for each of them. -/
  entries : all request message = chains.map ofChain
  /-- No way down is longer than the bound on the depth, so that the bound cuts nothing off. -/
  ends : ∀ depth, request.messages.length + 1 ≤ depth →
    below request depth [] none message = all request message

instance : Std.Irrefl Precedes := ⟨fun _ h => List.lt_irrefl _ h⟩

instance : Std.Antisymm Precedes := ⟨fun _ _ h h' => absurd h' (List.lt_asymm h)⟩

/-- Beyond the number of declared messages the depth has no influence. -/
theorem mem_chainsBelow_iff {depth : Nat} (hdepth : request.messages.length + 1 ≤ depth) :
    chain ∈ chainsBelow request depth [] message ↔ RepeatFree request message chain := by
  rw [mem_chainsBelow]
  constructor
  · exact And.left
  · intro hchain
    have hlength := hchain.length_le
    exact ⟨hchain, fun _ _ => List.not_mem_nil, by omega⟩

/-- The chains from a message, as they are listed. -/
def chains (request : Request) (message : MessageDecl) : List (List FieldPlace) :=
  chainsBelow request (request.messages.length + 2) [] message

theorem mem_chains : chain ∈ chains request message ↔ RepeatFree request message chain :=
  mem_chainsBelow_iff (Nat.le_succ _)

/-- Chains are listed depth first, in declaration order. -/
theorem pairwise_chains (request : Request) (message : MessageDecl) :
    (chains request message).Pairwise Precedes :=
  pairwise_chainsBelow _ [] message

theorem nodup_chains (request : Request) (message : MessageDecl) : (chains request message).Nodup :=
  (pairwise_chains request message).nodup

theorem all_eq (request : Request) (message : MessageDecl) :
    all request message = (chains request message).map ofChain :=
  below_eq _ [] [] message

/-- **The fields that are listed are the ends of the chains without repetitions.** For every request, also one
with messages inside themselves or one another, types that are not declared, or several messages of one name,
and for every message: there is one entry for each chain, depth first in declaration order, and no bound on
the depth is felt. -/
theorem lists_repeatFree (request : Request) (message : MessageDecl) : ∃ chains, Lists request message chains := by
  have hordered := pairwise_chains request message
  refine ⟨chains request message, fun chain => mem_chains, nodup_chains request message, hordered,
    all_eq request message, ?_⟩
  intro depth hdepth
  have hsame : chainsBelow request depth [] message = chains request message :=
    (pairwise_chainsBelow depth [] message).eq_of_mem_iff hordered fun chain => by
      rw [mem_chainsBelow_iff hdepth, mem_chains]
  rw [all_eq, ← hsame]
  exact below_eq depth [] [] message

end FieldPath

end RegionGateway
