import Mathlib.Data.List.Forall2
import RegionGateway.Proofs.Json.Suffix

/-!
# Readers that follow one another

Two readers of one input: where the first gives a value, the second gives a related one and takes as
much, or it stops with a fault of a given kind (`FollowedBy`). Sequences, loops, arrays and objects of
readers that follow one another follow one another, so two ways to read a text are compared token by
token. Both loops are bounded by the same input and go on together, so their bound does not show.
-/

namespace RegionGateway

/-- A kind of faults that an input can stop a reader with. What an end of an input can do, the input
can do. -/
structure FaultKind where
  tells : Bytes → Fault → Prop
  inherited : ∀ {rest input fault}, rest <:+ input → tells rest fault → tells input fault

namespace Reader

variable {α β γ δ σ τ : Type} {kind : FaultKind}

/-- Where the first reader gives a value, the second one gives a related value and leaves the same, or
stops with a fault of the kind. -/
def FollowedBy (kind : FaultKind) (related : α → β → Prop) (x : Reader α) (y : Reader β) : Prop :=
  ∀ input a rest, x input = .ok (a, rest) →
    (∃ b, y input = .ok (b, rest) ∧ related a b) ∨ ∃ fault, y input = .error fault ∧ kind.tells input fault

/-! ## Sequences -/

theorem followedBy_refl (x : Reader α) : x.FollowedBy kind (fun a b => a = b) x :=
  fun _ a _ h => .inl ⟨a, h, rfl⟩

theorem followedBy_fail {related : α → β → Prop} (fault : Fault) (y : Reader β) :
    (fail fault : Reader α).FollowedBy kind related y := by
  rintro input a rest ⟨⟩

theorem followedBy_pure {related : α → β → Prop} {a : α} {b : β} (h : related a b) :
    (pure a : Reader α).FollowedBy kind related (pure b) := by
  rintro input a' rest ⟨⟩
  exact .inl ⟨b, rfl, h⟩

theorem FollowedBy.mono {related wider : α → β → Prop} {x : Reader α} {y : Reader β}
    (h : x.FollowedBy kind related y) (hwider : ∀ a b, related a b → wider a b) :
    x.FollowedBy kind wider y := by
  intro input a rest hx
  rcases h input a rest hx with ⟨b, hy, hab⟩ | hfault
  · exact .inl ⟨b, hy, hwider a b hab⟩
  · exact .inr hfault

theorem FollowedBy.bind {related : α → β → Prop} {related' : γ → δ → Prop} {x : Reader α} {y : Reader β}
    {f : α → Reader γ} {g : β → Reader δ} (h : x.FollowedBy kind related y) (hshort : y.Shortens)
    (hf : ∀ a b, related a b → (f a).FollowedBy kind related' (g b)) :
    (x >>= f).FollowedBy kind related' (y >>= g) := by
  intro input c rest hx
  obtain ⟨a, middle, hmiddle, hrest⟩ := bind_eq_ok.mp hx
  rcases h input a middle hmiddle with ⟨b, hy, hab⟩ | ⟨fault, hy, hfault⟩
  · have hsuffix : middle <:+ input := hshort input b middle hy
    rw [bind_ok g hy]
    rcases hf a b hab middle c rest hrest with hg | ⟨fault, hg, hfault⟩
    · exact .inl hg
    · exact .inr ⟨fault, hg, kind.inherited hsuffix hfault⟩
  · exact .inr ⟨fault, bind_error g hy, hfault⟩

/-- Two sequences that begin with readers of the same. -/
theorem FollowedBy.bind_same {related : γ → δ → Prop} {x y : Reader α} {f : α → Reader γ}
    {g : α → Reader δ} (h : x.FollowedBy kind (fun a b => a = b) y) (hshort : y.Shortens)
    (hf : ∀ a, (f a).FollowedBy kind related (g a)) :
    (x >>= f).FollowedBy kind related (y >>= g) :=
  h.bind hshort fun a _ hab => hab ▸ hf a

theorem followedBy_bind_left {related : γ → δ → Prop} {x : Reader α} {f : α → Reader γ}
    {g : α → Reader δ} (hshort : x.Shortens) (hf : ∀ a, (f a).FollowedBy kind related (g a)) :
    (x >>= f).FollowedBy kind related (x >>= g) :=
  (followedBy_refl x).bind_same hshort hf

/-- A result that is only turned into another one. -/
theorem FollowedBy.map_right {related : α → β → Prop} {related' : α → γ → Prop} {x : Reader α}
    {y : Reader β} {f : β → γ} (h : x.FollowedBy kind related y)
    (hf : ∀ a b, related a b → related' a (f b)) :
    x.FollowedBy kind related' (y >>= fun b => return f b) := by
  intro input a rest hx
  rcases h input a rest hx with ⟨b, hy, hab⟩ | ⟨fault, hy, hfault⟩
  · exact .inl ⟨f b, bind_ok _ hy, hf a b hab⟩
  · exact .inr ⟨fault, bind_error _ hy, hfault⟩

/-! ## Loops -/

/-- Two steps go on in related states, or are done with related results. -/
inductive Together (going : σ → τ → Prop) (done : α → β → Prop) : Turn σ α → Turn τ β → Prop
  | again {s t} (h : going s t) : Together going done (.again s) (.again t)
  | done {a b} (h : done a b) : Together going done (.done a) (.done b)

theorem followedBy_loop {going : σ → τ → Prop} {done : α → β → Prop}
    {step : σ → Reader (Turn σ α)} {step' : τ → Reader (Turn τ β)}
    (hstep : ∀ s t, going s t → (step s).FollowedBy kind (Together going done) (step' t))
    (hshort : ∀ t, (step' t).Shortens) {s : σ} {t : τ} (h : going s t) :
    (loop step s).FollowedBy kind done (loop step' t) := by
  have hfor : ∀ bound s t, going s t →
      (loopFor step bound s).FollowedBy kind done (loopFor step' bound t) := by
    intro bound
    induction bound with
    | zero => exact fun s t _ => followedBy_fail _ _
    | succ bound ih =>
        intro s t hgoing
        refine (hstep s t hgoing).bind (hshort t) fun turn turn' hturns => ?_
        cases hturns with
        | again hgoing => exact ih _ _ hgoing
        | done hdone => exact followedBy_pure hdone
  exact fun input => hfor (input.length + 1) s t h input

/-- A step after which a byte is dropped when the loop is done. -/
def closing (step : σ → Reader (Turn σ α)) (state : σ) : Reader (Turn σ α) := do
  match ← step state with
  | .again after => return .again after
  | .done result =>
    advance
    return .done result

theorem closing_again {step : σ → Reader (Turn σ α)} {state after : σ} {input rest : Bytes}
    (h : step state input = .ok (.again after, rest)) :
    closing step state input = .ok (.again after, rest) := by
  rw [closing, bind_ok _ h]
  rfl

theorem closing_done {step : σ → Reader (Turn σ α)} {state : σ} {result : α} {b : UInt8}
    {input rest : Bytes} (h : step state input = .ok (.done result, b :: rest)) :
    closing step state input = .ok (.done result, rest) := by
  rw [closing, bind_ok _ h]
  rfl

/-- Whether the byte is dropped in the last step or after the loop makes no difference. -/
theorem loop_closing (step : σ → Reader (Turn σ α)) (state : σ) :
    loop (closing step) state = (do
      let result ← loop step state
      advance
      return result) := by
  have hfor : ∀ bound state, loopFor (closing step) bound state = (do
      let result ← loopFor step bound state
      advance
      return result) := by
    intro bound
    induction bound with
    | zero => exact fun _ => rfl
    | succ bound ih =>
        intro state
        simp only [loopFor, closing, bind_assoc]
        refine congrArg (step state >>= ·) (funext fun turn => ?_)
        cases turn with
        | again after => simp only [pure_bind, ih]
        | done result => simp only [bind_assoc, pure_bind]
  funext input
  exact congrFun (hfor (input.length + 1) state) input

theorem shortens_closing {step : σ → Reader (Turn σ α)} (h : ∀ state, (step state).Shortens)
    (state : σ) : (closing step state).Shortens := by
  refine shortens_bind (h state) fun turn => ?_
  cases turn with
  | again after => exact shortens_pure _
  | done result => exact shortens_bind shortens_advance fun _ => shortens_pure _

theorem items_eq_closing (item : Reader α) :
    items item = (advance >>= fun _ => loop (closing (itemsStep item)) []) := by
  rw [items_eq, loop_closing]

theorem members_eq_closing (member : String → σ → Reader σ) (start : σ) :
    members member start = (advance >>= fun _ => loop (closing (membersStep member)) (true, start)) := by
  rw [members_eq, loop_closing]

/-! ## Values, arrays and objects -/

theorem followedBy_anyValue {related : α → β → Prop} {scalar : Scalar → Reader α}
    {list object : Reader α} {scalar' : Scalar → Reader β} {list' object' : Reader β}
    (hscalar : ∀ s, (scalar s).FollowedBy kind related (scalar' s))
    (hlist : list.FollowedBy kind related list') (hobject : object.FollowedBy kind related object') :
    (anyValue scalar list object).FollowedBy kind related (anyValue scalar' list' object') := by
  -- the choice is the same on both sides, and what follows it reads an end of the input
  have hend : ∀ {x : Reader α} {y : Reader β} {rest input : Bytes}, x.FollowedBy kind related y →
      rest <:+ input → ∀ a left, x rest = .ok (a, left) →
      (∃ b, y rest = .ok (b, left) ∧ related a b) ∨
        ∃ fault, y rest = .error fault ∧ kind.tells input fault := by
    intro x y rest input hxy hrest a left hx
    rcases hxy rest a left hx with hy | ⟨fault, hy, hfault⟩
    · exact .inl hy
    · exact .inr ⟨fault, hy, kind.inherited hrest hfault⟩
  intro input a rest h
  cases anyValue_choice input with
  | fault fault happly =>
      rw [happly] at h
      cases h
  | scalar value middle hmiddle _ happly =>
      rw [happly] at h
      rw [happly]
      exact hend (hscalar value) hmiddle a rest h
  | list tail hinput happly =>
      rw [happly] at h
      rw [happly]
      exact hend hlist hinput a rest h
  | object tail hinput happly =>
      rw [happly] at h
      rw [happly]
      exact hend hobject hinput a rest h

theorem followedBy_items {related : α → β → Prop} {item : Reader α} {item' : Reader β}
    (hitem : item.FollowedBy kind related item') (hshort : item'.Shortens) :
    (items item).FollowedBy kind (List.Forall₂ related) (items item') := by
  have hstep : ∀ read read', List.Forall₂ related read read' →
      (itemsStep item read).FollowedBy kind
        (Together (List.Forall₂ related) (List.Forall₂ related)) (itemsStep item' read') := by
    intro read read' hread
    have hempty : read.isEmpty = read'.isEmpty := by cases hread <;> rfl
    rw [itemsStep, itemsStep, hempty]
    refine followedBy_bind_left (shortens_anotherElement _) fun another => ?_
    cases another with
    | false => exact followedBy_pure (.done (List.forall₂_reverse_iff.mpr hread))
    | true =>
        exact hitem.bind hshort fun a b hab => followedBy_pure (.again (.cons hab hread))
  rw [items_eq, items_eq]
  refine followedBy_bind_left shortens_advance fun _ => ?_
  refine (followedBy_loop hstep (shortens_itemsStep hshort) .nil).bind
    (shortens_loop (shortens_itemsStep hshort) []) fun read read' hread => ?_
  exact followedBy_bind_left shortens_advance fun _ => followedBy_pure hread

theorem followedBy_members {going : σ → τ → Prop} {member : String → σ → Reader σ}
    {member' : String → τ → Reader τ}
    (hmember : ∀ name s t, going s t → (member name s).FollowedBy kind going (member' name t))
    (hshort : ∀ name t, (member' name t).Shortens) {start : σ} {start' : τ} (h : going start start') :
    (members member start).FollowedBy kind going (members member' start') := by
  have hstep : ∀ s t, (s : Bool × σ).1 = (t : Bool × τ).1 ∧ going s.2 t.2 →
      (membersStep member s).FollowedBy kind
        (Together (fun s t => s.1 = t.1 ∧ going s.2 t.2) going) (membersStep member' t) := by
    rintro ⟨first, s⟩ ⟨first', t⟩ ⟨rfl, hgoing⟩
    refine followedBy_bind_left (shortens_anotherMember _) fun another => ?_
    cases another with
    | false => exact followedBy_pure (.done hgoing)
    | true =>
        refine followedBy_bind_left shortens_memberName fun name => ?_
        exact (hmember name s t hgoing).bind (hshort name t) fun s t hgoing =>
          followedBy_pure (.again ⟨rfl, hgoing⟩)
  rw [members_eq, members_eq]
  refine followedBy_bind_left shortens_advance fun _ => ?_
  refine (followedBy_loop hstep (shortens_membersStep hshort) ⟨rfl, h⟩).bind
    (shortens_loop (shortens_membersStep hshort) _) fun s t hgoing => ?_
  exact followedBy_bind_left shortens_advance fun _ => followedBy_pure hgoing

end Reader

end RegionGateway
