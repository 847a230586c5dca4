import RegionGateway.Attempt
import Mathlib.Data.List.Forall2

/-!
# Sequences of operations

What an operation in sequence does, read off what its first part does (`bind_ok`, `bind_error`), and
where operations lead (`Leads`): a relation between the state before and the state after, together
with a property of what is given. Whatever is sequenced of operations that lead along a relation
leads along it too (`leads_bind`). An operation on every element of a list, as far as it succeeds, is
told by what it does with one element (`mapM_eq_ok`); it fails as the first element does that fails
(`fails_mapM`). A loop that fails has done a first part of what it does (`advances_forM`); one that fails
at bad steps only has done all up to the first of them, and that one (`halts_mapM`).
-/

namespace RegionGateway

variable {α β γ σ ε : Type} {s after : σ}

/-- What a result failed with, if it did. -/
def faultOf : Except ε α → Option ε
  | .error error => some error
  | .ok _ => none

theorem faultOf_eq_some {result : Except ε α} {error : ε} :
    faultOf result = some error ↔ result = .error error := by
  cases result <;> simp [faultOf]

theorem faultOf_eq_none {result : Except ε α} : faultOf result = none ↔ ∃ a, result = .ok a := by
  cases result <;> simp [faultOf]

@[simp] theorem faultOf_mapError {ε' : Type} (f : ε → ε') (result : Except ε α) :
    faultOf (result.mapError f) = (faultOf result).map f := by
  cases result <;> rfl

/-- The first element that fails decides. -/
theorem faultOf_mapM (f : α → Except ε β) (as : List α) :
    faultOf (as.mapM f) = as.findSome? fun a => faultOf (f a) := by
  induction as with
  | nil => rfl
  | cons a as ih =>
      rw [List.mapM_cons, List.findSome?_cons, ← ih]
      cases f a with
      | error error => rfl
      | ok b => cases as.mapM f <;> rfl

/-- A sequence of operations that do not fail. -/
theorem stateM_bind {x : StateM σ α} {a : α} (f : α → StateM σ β) (h : x s = (a, after)) :
    (x >>= f) s = f a after := by
  show (match x s with | (a, s') => f a s') = _
  rw [h]

namespace Attempt

theorem bind_ok {x : Attempt σ ε α} {a : α} (f : α → Attempt σ ε β) (h : x s = (.ok a, after)) :
    (x >>= f) s = f a after := by
  show (match x s with | (a, s') => ExceptT.bindCont f a s') = _
  rw [h]
  rfl

theorem bind_error {x : Attempt σ ε α} {error : ε} (f : α → Attempt σ ε β)
    (h : x s = (.error error, after)) : (x >>= f) s = (.error error, after) := by
  show (match x s with | (a, s') => ExceptT.bindCont f a s') = _
  rw [h]
  rfl

theorem adapt_eq {ε' : Type} (f : ε → ε') {x : Attempt σ ε α} {result : Except ε α}
    (h : x s = (result, after)) : (x.adapt f : Attempt σ ε' α) s = (result.mapError f, after) := by
  show (match x s with | (result, s') => (result.mapError f, s')) = _
  rw [h]

/-- An operation whose failures are wrapped, and whose value is. -/
theorem adapt_cases {ε' : Type} {f : ε → ε'} {g : α → β} {x : Attempt σ ε α} {result : Except ε' β}
    (h : ((x.adapt f : Attempt σ ε' α) >>= fun a => pure (g a)) s = (result, after)) :
    (∃ a, x s = (.ok a, after) ∧ result = .ok (g a)) ∨
      ∃ error, x s = (.error error, after) ∧ result = .error (f error) := by
  cases hx : x s with
  | mk given between =>
      have hadapt := adapt_eq f hx
      cases given with
      | ok a =>
          cases (bind_ok _ hadapt).symm.trans h
          exact .inl ⟨a, rfl, rfl⟩
      | error error =>
          cases (bind_error _ hadapt).symm.trans h
          exact .inr ⟨error, rfl, rfl⟩

/-- What a demand does is to ask. -/
theorem demand_apply (question : StateM σ Bool) (error : ε) (s : σ) :
    demand question error s =
      (if (question s).1 then .ok () else .error error, (question s).2) := by
  have hasked : (liftM question : Attempt σ ε Bool) s = (.ok (question s).1, (question s).2) := rfl
  refine (bind_ok _ hasked).trans ?_
  cases (question s).1 <;> rfl

/-! ## Where operations lead -/

/-- A relation along which operations can be sequenced. -/
structure Chain (related : σ → σ → Prop) : Prop where
  refl : ∀ s, related s s
  trans : ∀ a b c, related a b → related b c → related a c

/-- From every state the operation leads to a related one, and what it gives has a property. -/
def Leads (related : σ → σ → Prop) (given : α → Prop) (operation : Attempt σ ε α) : Prop :=
  ∀ s, related s (operation s).2 ∧ ∀ a, (operation s).1 = .ok a → given a

section

variable {related : σ → σ → Prop} (hchain : Chain related)
include hchain

theorem leads_pure {given : α → Prop} {a : α} (h : given a) :
    (pure a : Attempt σ ε α).Leads related given := by
  intro s
  refine ⟨hchain.refl s, ?_⟩
  rintro a' ⟨⟩
  exact h

theorem leads_throw (given : α → Prop) (error : ε) :
    (throw error : Attempt σ ε α).Leads related given := by
  intro s
  refine ⟨hchain.refl s, ?_⟩
  rintro a ⟨⟩

theorem leads_bind {given : α → Prop} {given' : β → Prop} {x : Attempt σ ε α}
    {f : α → Attempt σ ε β} (hx : x.Leads related given)
    (hf : ∀ a, given a → (f a).Leads related given') : (x >>= f).Leads related given' := by
  intro s
  obtain ⟨hstate, hgiven⟩ := hx s
  cases h : x s with
  | mk result after =>
      rw [h] at hstate hgiven
      cases result with
      | error error =>
          rw [bind_error f h]
          refine ⟨hstate, ?_⟩
          rintro b ⟨⟩
      | ok a =>
          rw [bind_ok f h]
          obtain ⟨hafter, hresult⟩ := hf a (hgiven a rfl) after
          exact ⟨hchain.trans _ _ _ hstate hafter, hresult⟩

end

/-! ## Operations that succeed -/

theorem ofExcept_eq_ok {result : Except ε α} {a : α}
    (h : (ofExcept result : Attempt σ ε α) s = (.ok a, after)) : result = .ok a ∧ s = after :=
  Prod.mk.inj h

theorem bind_eq_ok {x : Attempt σ ε α} {f : α → Attempt σ ε β} {b : β}
    (h : (x >>= f) s = (.ok b, after)) :
    ∃ a between, x s = (.ok a, between) ∧ f a between = (.ok b, after) := by
  cases hx : x s with
  | mk result between =>
      cases result with
      | error error => cases (bind_error f hx).symm.trans h
      | ok a => exact ⟨a, between, rfl, (bind_ok f hx).symm.trans h⟩

/-- An operation that has a result has succeeded. -/
theorem exists_of_toOption {x : Attempt σ ε α} {f : α → β} {b : β} (h : (x s).1.toOption.map f = some b) :
    ∃ a after, x s = (.ok a, after) ∧ f a = b := by
  rcases hx : x s with ⟨result, after⟩
  rw [hx] at h
  obtain ⟨a, hresult, rfl⟩ := Option.map_eq_some_iff.mp h
  cases result with
  | error error => cases hresult
  | ok _ =>
      cases hresult
      exact ⟨a, after, rfl, rfl⟩

theorem map_eq_ok {x : Attempt σ ε α} {f : α → β} {b : β} (h : (f <$> x) s = (.ok b, after)) :
    ∃ a, x s = (.ok a, after) ∧ b = f a := by
  rw [← bind_pure_comp] at h
  obtain ⟨a, between, hx, hpure⟩ := bind_eq_ok h
  cases hpure
  exact ⟨a, hx, rfl⟩

/-- A relation between the states before and after a trace, along which traces can be joined. -/
structure Traced (along : σ → List γ → σ → Prop) : Prop where
  nil : ∀ s, along s [] s
  append : ∀ {r s t xs ys}, along r xs s → along s ys t → along r (xs ++ ys) t

/-- Where an operation succeeds on every element in turn, the elements are related to what is given
for them, and the states before and after by the joined traces. -/
theorem mapM_eq_ok {along : σ → List γ → σ → Prop} (htraced : Traced along) (trace : β → List γ)
    (given : α → β → Prop) {f : α → Attempt σ ε β} {as : List α} {bs : List β}
    (hstep : ∀ a ∈ as, ∀ s b t, f a s = (.ok b, t) → along s (trace b) t ∧ given a b)
    (h : as.mapM f s = (.ok bs, after)) :
    along s (bs.flatMap trace) after ∧ List.Forall₂ given as bs := by
  induction as generalizing s bs with
  | nil =>
      cases h
      exact ⟨htraced.nil _, .nil⟩
  | cons a as ih =>
      rw [List.mapM_cons] at h
      obtain ⟨b, between, hfirst, h⟩ := bind_eq_ok h
      obtain ⟨rest, last, hrest, h⟩ := bind_eq_ok h
      cases h
      obtain ⟨halong, hgiven⟩ := hstep a List.mem_cons_self _ _ _ hfirst
      obtain ⟨halongs, hgivens⟩ := ih (fun a ha => hstep a (List.mem_cons_of_mem _ ha)) hrest
      exact ⟨htraced.append halong halongs, .cons hgiven hgivens⟩

/-! ## Operations that stop on the way -/

theorem bind_eq_error {x : Attempt σ ε α} {f : α → Attempt σ ε β} {error : ε}
    (h : (x >>= f) s = (.error error, after)) : x s = (.error error, after) ∨
      ∃ a between, x s = (.ok a, between) ∧ f a between = (.error error, after) := by
  cases hx : x s with
  | mk result between =>
      cases result with
      | error error' =>
          cases (bind_error f hx).symm.trans h
          exact .inl rfl
      | ok a => exact .inr ⟨a, between, rfl, (bind_ok f hx).symm.trans h⟩

/-- An operation that goes along a trace where it succeeds, and along a proper beginning of it where it
fails. -/
structure Advances (along : σ → List γ → σ → Prop) (trace : List γ) (operation : Attempt σ ε α) :
    Prop where
  ok : ∀ {s a after}, operation s = (.ok a, after) → along s trace after
  error : ∀ {s error after}, operation s = (.error error, after) →
    ∃ done rest, trace = done ++ rest ∧ rest ≠ [] ∧ along s done after

section

variable {along : σ → List γ → σ → Prop} (htraced : Traced along)
include htraced

theorem advances_pure (a : α) : (pure a : Attempt σ ε α).Advances along [] where
  ok := by
    rintro s _ _ ⟨⟩
    exact htraced.nil s
  error := by rintro s _ _ ⟨⟩

theorem advances_bind {x : Attempt σ ε α} {f : α → Attempt σ ε β} {xs ys : List γ}
    (hx : x.Advances along xs) (hf : ∀ a, (f a).Advances along ys) :
    (x >>= f).Advances along (xs ++ ys) where
  ok h := by
    obtain ⟨a, between, hfirst, hnext⟩ := bind_eq_ok h
    exact htraced.append (hx.ok hfirst) ((hf a).ok hnext)
  error h := by
    rcases bind_eq_error h with hfirst | ⟨a, between, hfirst, hnext⟩
    · obtain ⟨done, rest, rfl, hrest, hdone⟩ := hx.error hfirst
      exact ⟨done, rest ++ ys, List.append_assoc _ _ _, by simp [hrest], hdone⟩
    · obtain ⟨done, rest, rfl, hrest, hdone⟩ := (hf a).error hnext
      exact ⟨xs ++ done, rest, (List.append_assoc _ _ _).symm, hrest,
        htraced.append (hx.ok hfirst) hdone⟩

/-- An operation that goes along nothing may fail too, if something is to come. -/
theorem advances_bind_of_leads {x : Attempt σ ε α} {f : α → Attempt σ ε β} {ys : List γ}
    {given : α → Prop} (hx : x.Leads (along · [] ·) given) (hf : ∀ a, (f a).Advances along ys)
    (hys : ys ≠ []) : (x >>= f).Advances along ys where
  ok {s _ _} h := by
    obtain ⟨a, between, hfirst, hnext⟩ := bind_eq_ok h
    have hstart := (hx s).1
    rw [hfirst] at hstart
    exact htraced.append hstart ((hf a).ok hnext)
  error {s _ _} h := by
    have hstart := (hx s).1
    rcases bind_eq_error h with hfirst | ⟨a, between, hfirst, hnext⟩
    · rw [hfirst] at hstart
      exact ⟨[], ys, rfl, hys, hstart⟩
    · rw [hfirst] at hstart
      obtain ⟨done, rest, rfl, hrest, hdone⟩ := (hf a).error hnext
      exact ⟨done, rest, rfl, hrest, htraced.append hstart hdone⟩

theorem advances_forM {f : α → Attempt σ ε PUnit} (trace : α → List γ) {as : List α}
    (hf : ∀ a ∈ as, (f a).Advances along (trace a)) :
    (as.forM f).Advances along (as.flatMap trace) := by
  induction as with
  | nil => exact advances_pure htraced PUnit.unit
  | cons a as ih =>
      obtain ⟨hfirst, hrest⟩ := List.forall_mem_cons.mp hf
      exact advances_bind htraced hfirst fun _ => ih hrest

end

/-! ## Operations that stop at a bad step -/

/-- An operation that goes along a trace of good steps where it succeeds; where it fails, it has gone
along the trace up to the first step that is not good, and that step. -/
structure Halts (along : σ → List γ → σ → Prop) (good : γ → Prop) (trace : List γ)
    (operation : Attempt σ ε α) : Prop where
  ok : ∀ {s a after}, operation s = (.ok a, after) → along s trace after ∧ ∀ step ∈ trace, good step
  error : ∀ {s error after}, operation s = (.error error, after) →
    ∃ before step rest, trace = before ++ step :: rest ∧ (∀ earlier ∈ before, good earlier) ∧
      ¬ good step ∧ along s (before ++ [step]) after

section

variable {along : σ → List γ → σ → Prop} {good : γ → Prop} (htraced : Traced along)
include htraced

theorem halts_pure (a : α) : (pure a : Attempt σ ε α).Halts along good [] where
  ok := by
    rintro s _ _ ⟨⟩
    exact ⟨htraced.nil s, by simp⟩
  error := by rintro s _ _ ⟨⟩

theorem halts_bind {x : Attempt σ ε α} {f : α → Attempt σ ε β} {xs ys : List γ}
    (hx : x.Halts along good xs) (hf : ∀ a, (f a).Halts along good ys) :
    (x >>= f).Halts along good (xs ++ ys) where
  ok h := by
    obtain ⟨a, between, hfirst, hnext⟩ := bind_eq_ok h
    obtain ⟨hxs, hgood⟩ := hx.ok hfirst
    obtain ⟨hys, hgood'⟩ := (hf a).ok hnext
    exact ⟨htraced.append hxs hys, List.forall_mem_append.mpr ⟨hgood, hgood'⟩⟩
  error h := by
    rcases bind_eq_error h with hfirst | ⟨a, between, hfirst, hnext⟩
    · obtain ⟨before, step, rest, rfl, hgood, hbad, halong⟩ := hx.error hfirst
      exact ⟨before, step, rest ++ ys, by simp, hgood, hbad, halong⟩
    · obtain ⟨hxs, hgood⟩ := hx.ok hfirst
      obtain ⟨before, step, rest, rfl, hgood', hbad, halong⟩ := (hf a).error hnext
      refine ⟨xs ++ before, step, rest, by simp, List.forall_mem_append.mpr ⟨hgood, hgood'⟩, hbad, ?_⟩
      rw [List.append_assoc]
      exact htraced.append hxs halong

theorem halts_map {x : Attempt σ ε α} {xs : List γ} (f : α → β) (hx : x.Halts along good xs) :
    (f <$> x).Halts along good xs := by
  rw [← bind_pure_comp, ← List.append_nil xs]
  exact halts_bind htraced hx fun a => halts_pure htraced (f a)

theorem halts_mapM {f : α → Attempt σ ε β} (trace : α → List γ) {as : List α}
    (h : ∀ a ∈ as, (f a).Halts along good (trace a)) :
    (as.mapM f).Halts along good (as.flatMap trace) := by
  induction as with
  | nil => exact halts_pure htraced []
  | cons a as ih =>
      obtain ⟨hfirst, hrest⟩ := List.forall_mem_cons.mp h
      rw [List.mapM_cons, List.flatMap_cons]
      exact halts_bind htraced hfirst fun b => halts_map htraced (b :: ·) (ih hrest)

end

/-! ## Operations that fail -/

/-- Whether the operation fails, and what with, does not hang on the state. -/
def Fails (fault : Option ε) (operation : Attempt σ ε α) : Prop := ∀ s, faultOf (operation s).1 = fault

theorem fails_ofExcept (result : Except ε α) :
    (ofExcept result : Attempt σ ε α).Fails (faultOf result) := fun _ => rfl

theorem fails_change (f : σ → α × σ) : (change f : Attempt σ ε α).Fails none := fun _ => rfl

theorem fails_bind {x : Attempt σ ε α} {f : α → Attempt σ ε β} {fault fault' : Option ε}
    (hx : x.Fails fault) (hf : ∀ s a t, x s = (.ok a, t) → (f a).Fails fault') :
    (x >>= f).Fails (fault.or fault') := by
  intro s
  rw [← hx s]
  cases h : x s with
  | mk result between =>
      cases result with
      | error error => rw [bind_error f h]; rfl
      | ok a => rw [bind_ok f h]; exact hf s a between h between

theorem fails_map {x : Attempt σ ε α} {fault : Option ε} (f : α → β) (hx : x.Fails fault) :
    (f <$> x).Fails fault := by
  rw [← bind_pure_comp, ← Option.or_none (o := fault)]
  exact fails_bind hx fun _ _ _ _ _ => rfl

/-- The first element that fails decides. -/
theorem fails_mapM {f : α → Attempt σ ε β} {fault : α → Option ε} {as : List α}
    (h : ∀ a ∈ as, (f a).Fails (fault a)) : (as.mapM f).Fails (as.findSome? fault) := by
  induction as with
  | nil => intro s; rfl
  | cons a as ih =>
      obtain ⟨hfirst, hrest⟩ := List.forall_mem_cons.mp h
      have hsplit : (a :: as).findSome? fault = (fault a).or (as.findSome? fault) := by
        rw [List.findSome?_cons]
        cases fault a <;> rfl
      rw [List.mapM_cons, hsplit]
      refine fails_bind hfirst fun _ b _ _ => ?_
      exact fails_map (b :: ·) (ih hrest)

end Attempt

end RegionGateway
