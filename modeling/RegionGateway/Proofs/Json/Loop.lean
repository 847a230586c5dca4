import Mathlib.Tactic.Common
import RegionGateway.Json.Read
import RegionGateway.Proofs.Text.Encoding

/-!
# Runs of readers

How readers act on an input that begins with known bytes. A reader that is done with a prefix hands
on the rest (`bind_ok`); the loop of a reader is described by `Runs`, one constructor for each thing
a step can do, so that no proof about a loop speaks of its bound (`loop_eq_of_runs`).
-/

namespace RegionGateway.Reader

variable {α β σ : Type}

/-! ## Sequences -/

theorem bind_ok {x : Reader α} {input rest : Bytes} {a : α} (f : α → Reader β)
    (h : x input = .ok (a, rest)) : (x >>= f) input = f a rest := by
  show Except.bind (x input) _ = _
  rw [h]
  rfl

theorem bind_error {x : Reader α} {input : Bytes} {fault : Fault} (f : α → Reader β)
    (h : x input = .error fault) : (x >>= f) input = .error fault := by
  show Except.bind (x input) _ = _
  rw [h]
  rfl

theorem map_ok {x : Reader α} {input rest : Bytes} {a : α} (f : α → β)
    (h : x input = .ok (a, rest)) : (f <$> x) input = .ok (f a, rest) := by
  show Except.bind (x input) _ = _
  rw [h]
  rfl

theorem map_error {x : Reader α} {input : Bytes} {fault : Fault} (f : α → β)
    (h : x input = .error fault) : (f <$> x) input = .error fault := by
  show Except.bind (x input) _ = _
  rw [h]
  rfl

/-- A sequence starts with its first reader on either input. -/
theorem bind_congr {x : Reader α} {input other : Bytes} (f : α → Reader β)
    (h : x input = x other) : (x >>= f) input = (x >>= f) other := by
  show Except.bind (x input) _ = Except.bind (x other) _
  rw [h]

@[simp] theorem advance_cons (b : UInt8) (rest : Bytes) : advance (b :: rest) = .ok ((), rest) := rfl

/-! ## Tokens -/

theorem peek_cons (b : UInt8) (rest : Bytes) :
    peek (b :: rest) = .ok (some (Char.ofNat b.toNat), b :: rest) := rfl

theorem next_cons (b : UInt8) (rest : Bytes) :
    next (b :: rest) = .ok (some (Char.ofNat b.toNat), rest) := rfl

/-- A byte that is no blank is the next token. -/
theorem peekToken_cons {b : UInt8} (c : Char) (rest : Bytes) (h : isBlank b = false)
    (hc : Char.ofNat b.toNat = c) : peekToken (b :: rest) = .ok (some c, b :: rest) := by
  show Except.ok _ = _
  simp [List.dropWhile, h, hc]

/-- A blank is passed over. -/
theorem peekToken_blank {b : UInt8} (rest : Bytes) (h : isBlank b = true) :
    peekToken (b :: rest) = peekToken rest := by
  show Except.ok _ = Except.ok _
  simp [List.dropWhile, h]

theorem peekToken_blanks {blanks : Bytes} (h : ∀ b ∈ blanks, isBlank b = true) (rest : Bytes) :
    peekToken (blanks ++ rest) = peekToken rest := by
  induction blanks with
  | nil => rfl
  | cons b blanks ih =>
      obtain ⟨hb, hblanks⟩ := List.forall_mem_cons.mp h
      exact (peekToken_blank _ hb).trans (ih hblanks)

/-! ## Loops -/

/-- What a loop makes of an input: a step goes on with less input, is done, or stops with a fault. -/
inductive Runs (step : σ → Reader (Turn σ α)) : σ → Bytes → Except Fault (α × Bytes) → Prop
  | again {state after input middle out} : step state input = .ok (.again after, middle) →
      middle.length < input.length → Runs step after middle out → Runs step state input out
  | done {state input result rest} : step state input = .ok (.done result, rest) →
      Runs step state input (.ok (result, rest))
  | stop {state input fault} : step state input = .error fault →
      Runs step state input (.error fault)

/-- A bound above the length of the input does not show. -/
theorem loopFor_eq_of_runs {step : σ → Reader (Turn σ α)} {state : σ} {input : Bytes}
    {out : Except Fault (α × Bytes)} (h : Runs step state input out) :
    ∀ bound, input.length < bound → loopFor step bound state input = out := by
  induction h with
  | again hstep hless _ ih =>
      -- the step took something away, so one less is still above what is left
      intro bound hbound
      obtain ⟨bound, rfl⟩ : ∃ n, bound = n + 1 := ⟨bound - 1, by omega⟩
      rw [loopFor, bind_ok _ hstep]
      exact ih bound (by omega)
  | done hstep =>
      intro bound hbound
      obtain ⟨bound, rfl⟩ : ∃ n, bound = n + 1 := ⟨bound - 1, by omega⟩
      rw [loopFor, bind_ok _ hstep]
      rfl
  | stop hstep =>
      intro bound hbound
      obtain ⟨bound, rfl⟩ : ∃ n, bound = n + 1 := ⟨bound - 1, by omega⟩
      rw [loopFor, bind_error _ hstep]

/-- The loop gives what its run gives. -/
theorem loop_eq_of_runs {step : σ → Reader (Turn σ α)} {state : σ} {input : Bytes}
    {out : Except Fault (α × Bytes)} (h : Runs step state input out) :
    loop step state input = out :=
  loopFor_eq_of_runs h _ (Nat.lt_succ_self _)

end RegionGateway.Reader
