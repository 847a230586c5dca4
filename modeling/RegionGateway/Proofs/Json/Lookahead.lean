import RegionGateway.Proofs.Json.Skip

/-!
# How far readers look

A reader sees at most one byte behind those it takes (`Local`): as long as a byte is left, it does not
matter what follows that byte. So a number at the end of an input may go on, if more comes; a value
that ends with a bracket does not (`Delimits`). The bounds of loops and of nesting grow with the input,
so the law is stated of two readers, the one of the input and the one of the longer input (`Persists`).
-/

namespace RegionGateway.Reader

variable {α β σ : Type}

/-- What the one reader reads, leaving at least a byte, the other one reads from every longer input. -/
def Persists (x y : Reader α) : Prop :=
  ∀ input a rest, x input = .ok (a, rest) →
    rest <:+ input ∧ (rest ≠ [] → ∀ more, y (input ++ more) = .ok (a, rest ++ more))

/-- The reader takes bytes off the front, and sees at most one byte behind them. -/
abbrev Local (x : Reader α) : Prop := Persists x x

/-- The reader takes bytes off the front, and sees no byte behind them. -/
def Delimits (x : Reader α) : Prop :=
  ∀ input a rest, x input = .ok (a, rest) →
    rest <:+ input ∧ ∀ more, x (input ++ more) = .ok (a, rest ++ more)

/-- The reader finds no value in an empty input. -/
def Wants (x : Reader α) : Prop := ∀ a rest, x [] ≠ .ok (a, rest)

/-! ## Sequences -/

theorem Delimits.local {x : Reader α} (h : x.Delimits) : x.Local := fun input a rest hx =>
  ⟨(h input a rest hx).1, fun _ => (h input a rest hx).2⟩

theorem Persists.shortens {x y : Reader α} (h : Persists x y) : x.Shortens :=
  fun input a rest hx => (h input a rest hx).1

theorem delimits_pure (a : α) : (pure a : Reader α).Delimits := by
  rintro input b rest ⟨⟩
  exact ⟨List.suffix_refl input, fun _ => rfl⟩

theorem delimits_fail (fault : Fault) : (fail fault : Reader α).Delimits := by
  rintro input a rest ⟨⟩

theorem local_pure (a : α) : (pure a : Reader α).Local := (delimits_pure a).local

theorem persists_fail (fault : Fault) (y : Reader α) : Persists (fail fault) y := by
  rintro input a rest ⟨⟩

theorem local_fail (fault : Fault) : (fail fault : Reader α).Local := persists_fail fault _

theorem persists_bind {x y : Reader α} {f g : α → Reader β} (hx : Persists x y)
    (hf : ∀ a, Persists (f a) (g a)) : Persists (x >>= f) (y >>= g) := by
  intro input b rest h
  obtain ⟨a, middle, hmiddle, hrest⟩ := bind_eq_ok.mp h
  obtain ⟨htaken, hgrown⟩ := hx input a middle hmiddle
  obtain ⟨hleft, hthen⟩ := hf a middle b rest hrest
  refine ⟨hleft.trans htaken, fun hne more => ?_⟩
  -- what is left at the end was left in the middle
  have hmiddle : middle ≠ [] := fun hnil => hne (List.suffix_nil.mp (hnil ▸ hleft))
  rw [bind_ok g (hgrown hmiddle more)]
  exact hthen hne more

theorem local_bind {x : Reader α} {f : α → Reader β} (hx : x.Local) (hf : ∀ a, (f a).Local) :
    (x >>= f).Local :=
  persists_bind hx hf

theorem local_map {x : Reader α} (f : α → β) (hx : x.Local) : (f <$> x).Local :=
  local_bind hx fun a => local_pure (f a)

theorem Delimits.bind {x : Reader α} {f : α → Reader β} (hx : x.Delimits)
    (hf : ∀ a, (f a).Delimits) : (x >>= f).Delimits := by
  intro input b rest h
  obtain ⟨a, middle, hmiddle, hrest⟩ := bind_eq_ok.mp h
  obtain ⟨htaken, hgrown⟩ := hx input a middle hmiddle
  obtain ⟨hleft, hthen⟩ := hf a middle b rest hrest
  refine ⟨hleft.trans htaken, fun more => ?_⟩
  rw [bind_ok f (hgrown more)]
  exact hthen more

/-- The byte that the first reader saw is there if the second one wants it. -/
theorem delimits_bind {x : Reader α} {f : α → Reader β} (hx : x.Local)
    (hf : ∀ a, (f a).Delimits ∧ (f a).Wants) : (x >>= f).Delimits := by
  intro input b rest h
  obtain ⟨a, middle, hmiddle, hrest⟩ := bind_eq_ok.mp h
  obtain ⟨htaken, hgrown⟩ := hx input a middle hmiddle
  obtain ⟨hleft, hthen⟩ := (hf a).1 middle b rest hrest
  refine ⟨hleft.trans htaken, fun more => ?_⟩
  have hmiddle : middle ≠ [] := fun hnil => (hf a).2 b rest (hnil ▸ hrest)
  rw [bind_ok f (hgrown hmiddle more)]
  exact hthen more

theorem wants_bind {x : Reader α} {f : α → Reader β} (hx : x.Shortens) (hf : ∀ a, (f a).Wants) :
    (x >>= f).Wants := by
  intro b rest h
  obtain ⟨a, middle, hmiddle, hrest⟩ := bind_eq_ok.mp h
  obtain rfl : middle = [] := List.suffix_nil.mp (hx [] a middle hmiddle)
  exact hf a b rest hrest

theorem Wants.bind {x : Reader α} (hx : x.Wants) (f : α → Reader β) : (x >>= f).Wants := by
  intro b rest h
  obtain ⟨a, middle, hmiddle, -⟩ := bind_eq_ok.mp h
  exact hx a middle hmiddle

/-- The reader always stops with a fault. -/
def Never (x : Reader α) : Prop := ∀ input a rest, x input ≠ .ok (a, rest)

theorem never_fail (fault : Fault) : (fail fault : Reader α).Never := by
  rintro input a rest ⟨⟩

theorem never_bind (x : Reader α) {f : α → Reader β} (hf : ∀ a, (f a).Never) : (x >>= f).Never := by
  intro input b rest h
  obtain ⟨a, middle, -, hrest⟩ := bind_eq_ok.mp h
  exact hf a middle b rest hrest

theorem Never.delimits {x : Reader α} (h : x.Never) : x.Delimits ∧ x.Wants :=
  ⟨fun input a rest hx => absurd hx (h input a rest), h []⟩

/-! ## Bytes and tokens -/

theorem local_peek : peek.Local := by
  rintro input c rest ⟨⟩
  refine ⟨List.suffix_refl input, fun hne more => ?_⟩
  cases input with
  | nil => exact absurd rfl hne
  | cons b tail => rfl

theorem local_advance : advance.Local := by
  rintro input a rest ⟨⟩
  refine ⟨List.drop_suffix 1 input, fun hne more => ?_⟩
  cases input with
  | nil => exact absurd rfl hne
  | cons b tail => rfl

theorem local_next : next.Local :=
  local_bind local_peek fun c => local_bind local_advance fun _ => local_pure c

section

variable {p : UInt8 → Bool} {input : Bytes} (h : input.dropWhile p ≠ [])
include h

/-! What stops at a byte of the input stops at it in every longer input. -/

theorem dropWhile_append (more : Bytes) : (input ++ more).dropWhile p = input.dropWhile p ++ more := by
  rw [List.dropWhile_append, if_neg (by simpa using h)]

theorem takeWhile_append (more : Bytes) : (input ++ more).takeWhile p = input.takeWhile p := by
  rw [List.takeWhile_append, if_neg fun hall => h ?_]
  have hsplit := congrArg List.length (List.takeWhile_append_dropWhile (p := p) (l := input))
  rw [List.length_append] at hsplit
  exact List.length_eq_zero_iff.mp (by omega)

end

theorem local_peekToken : peekToken.Local := by
  rintro input c rest ⟨⟩
  refine ⟨List.dropWhile_suffix _, fun hne more => ?_⟩
  cases hstripped : input.dropWhile isBlank with
  | nil => exact absurd hstripped hne
  | cons b tail =>
      show Except.ok _ = Except.ok _
      rw [dropWhile_append hne, hstripped]
      rfl

/-- A token that has been seen is still there. -/
theorem peekToken_some {input rest : Bytes} {c : Char} (h : peekToken input = .ok (some c, rest)) :
    rest ≠ [] := by
  rintro rfl
  cases hstripped : input.dropWhile isBlank with
  | nil =>
      rw [Json.peekToken_nil hstripped] at h
      cases h
  | cons b tail =>
      rw [peekToken_stripped hstripped] at h
      cases h

theorem local_digits : digits.Local := by
  rintro input ds rest ⟨⟩
  refine ⟨List.dropWhile_suffix _, fun hne more => ?_⟩
  show Except.ok _ = Except.ok _
  rw [dropWhile_append hne, takeWhile_append hne]

theorem local_word (cs : List Char) : (word cs).Local := by
  induction cs with
  | nil => exact local_pure ()
  | cons c cs ih =>
      refine local_bind local_next fun d => ?_
      split
      · exact local_fail _
      · split
        · exact ih
        · exact local_fail _

/-! ## Loops -/

theorem persists_loop {step step' : σ → Reader (Turn σ α)}
    (hstep : ∀ state, Persists (step state) (step' state)) (state : σ) :
    Persists (loop step state) (loop step' state) := by
  have hfor : ∀ {bound bound' : Nat}, bound ≤ bound' → ∀ state,
      Persists (loopFor step bound state) (loopFor step' bound' state) := by
    intro bound
    induction bound with
    | zero => exact fun _ _ => persists_fail _ _
    | succ bound ih =>
        intro bound' hle state
        obtain ⟨bound', rfl⟩ : ∃ n, bound' = n + 1 := ⟨bound' - 1, by omega⟩
        refine persists_bind (hstep state) fun turn => ?_
        cases turn with
        | again after => exact ih (by omega) after
        | done result => exact local_pure result
  intro input a rest h
  refine ⟨(hfor (Nat.le_refl _) state input a rest h).1, fun hne more => ?_⟩
  have hle : input.length + 1 ≤ (input ++ more).length + 1 := by
    rw [List.length_append]
    omega
  exact (hfor hle state input a rest h).2 hne more

theorem local_loop {step : σ → Reader (Turn σ α)} (hstep : ∀ state, (step state).Local) (state : σ) :
    (loop step state).Local :=
  persists_loop hstep state

/-- A loop ends with a step that is done. -/
theorem loop_eq_ok {step : σ → Reader (Turn σ α)} {state : σ} {input rest : Bytes} {a : α}
    (h : loop step state input = .ok (a, rest)) :
    ∃ last middle, step last middle = .ok (.done a, rest) := by
  have hfor : ∀ bound state input, loopFor step bound state input = .ok (a, rest) →
      ∃ last middle, step last middle = .ok (.done a, rest) := by
    intro bound
    induction bound with
    | zero => rintro state input ⟨⟩
    | succ bound ih =>
        intro state input h
        obtain ⟨less, hless, hdone | ⟨after, middle, -, hrest⟩⟩ := loopFor_eq_ok h
        · exact ⟨state, input, hdone⟩
        · cases hless
          exact ih after middle hrest
  exact hfor _ state input h

end RegionGateway.Reader

/-! ## Numbers and strings -/

namespace RegionGateway.NumberText

open Reader

theorem local_someDigits (atEnd : Fault) : (someDigits atEnd).Local := by
  refine local_bind local_digits fun digits => ?_
  dsimp only
  split
  · refine local_bind local_peek fun c => ?_
    split
    · exact local_fail _
    · exact local_fail _
  · exact local_pure digits

theorem local_readWhole (atEnd : Fault) : (readWhole atEnd).Local := by
  refine local_bind (local_someDigits atEnd) fun digits => ?_
  split
  · exact local_fail _
  · exact local_pure _

theorem local_readFraction (atEnd : Fault) : (readFraction atEnd).Local := by
  refine local_bind local_peek fun c => ?_
  split
  · exact local_bind local_advance fun _ =>
      local_bind (local_someDigits atEnd) fun digits => local_pure _
  · exact local_pure none

theorem local_readExponent (atEnd : Fault) : (readExponent atEnd).Local := by
  refine local_bind local_peek fun c => ?_
  dsimp only
  split
  · refine local_bind local_advance fun _ => local_bind local_peek fun sign => ?_
    split
    · exact local_bind local_advance fun _ =>
        local_bind (local_someDigits atEnd) fun digits => local_pure _
    · exact local_bind (local_someDigits atEnd) fun digits => local_pure _
  · exact local_pure none

theorem local_read (atEnd : Fault) : (read atEnd).Local := by
  have hparts : ∀ (negative : Bool) (whole : List Nat), (do
      let fraction ← readFraction atEnd
      let exponent ← readExponent atEnd
      return ⟨negative, whole, fraction, exponent⟩ : Reader NumberText).Local := fun _ _ =>
    local_bind (local_readFraction atEnd) fun _ =>
      local_bind (local_readExponent atEnd) fun _ => local_pure _
  refine local_bind local_peek fun c => ?_
  dsimp only
  split
  · exact local_bind local_advance fun _ => local_bind (local_readWhole atEnd) (hparts _)
  · exact local_bind (local_readWhole atEnd) (hparts _)

theorem local_readValue : readValue.Local := by
  refine local_bind (local_read _) fun text => ?_
  split
  · exact local_pure _
  · exact local_fail _

theorem local_skip : skip.Local := local_bind (local_read _) fun _ => local_pure ()

end RegionGateway.NumberText

namespace RegionGateway.StringText

open Reader

theorem local_codeUnit : codeUnit.Local := by
  intro input n rest h
  unfold codeUnit at h
  split at h
  case h_1 a b c d tail =>
    split at h
    case h_1 n hn =>
      cases h
      refine ⟨List.suffix_append [a, b, c, d] _, fun _ more => ?_⟩
      simp only [codeUnit, List.cons_append, hn]
    case h_2 => cases h
  case h_2 => cases h

theorem local_expectInPair (c : Char) : (expectInPair c).Local := by
  refine local_bind local_next fun d => ?_
  split
  · exact local_fail _
  · split
    · exact local_pure ()
    · exact local_fail _

theorem local_codePoint : codePoint.Local := by
  refine local_bind local_codeUnit fun high => ?_
  split
  · exact local_fail _
  · split
    · refine local_bind (local_expectInPair _) fun _ =>
        local_bind (local_expectInPair _) fun _ => local_bind local_codeUnit fun low => ?_
      split
      · exact local_pure _
      · exact local_fail _
    · exact local_pure _

theorem local_escape {unit : Reader Bytes} (hunit : unit.Local) : (escape unit).Local := by
  refine local_bind local_next fun c => ?_
  split
  · exact local_fail _
  · exact hunit
  · split
    · exact local_pure _
    · exact local_fail _

theorem local_piece {unit : Reader Bytes} (hunit : unit.Local) (content : Bytes) :
    (piece unit content).Local := by
  intro input turn rest h
  refine ⟨shortens_piece hunit.shortens content input turn rest h, fun hne more => ?_⟩
  cases input with
  | nil => cases h
  | cons b tail =>
      simp only [piece, List.cons_append] at h ⊢
      split
      next hquote =>
        rw [if_pos hquote] at h
        cases h
        rfl
      next hquote =>
        rw [if_neg hquote] at h
        split
        next hescape =>
          rw [if_pos hescape] at h
          cases hread : escape unit tail with
          | error fault =>
              rw [hread] at h
              cases h
          | ok result =>
              obtain ⟨bytes, left⟩ := result
              rw [hread] at h
              cases h
              rw [(local_escape hunit tail bytes rest hread).2 hne more]
        next hescape =>
          rw [if_neg hescape] at h
          split
          next hcontrol =>
            rw [if_pos hcontrol] at h
            cases h
          next hcontrol =>
            rw [if_neg hcontrol] at h
            cases h
            rfl

theorem local_read : read.Local := by
  have hcontent : content.Local := local_loop (local_piece (local_map _ local_codePoint)) []
  refine local_bind hcontent fun bytes => ?_
  split
  · exact local_pure _
  · exact local_fail _

theorem local_skip : skip.Local :=
  local_bind (local_loop (local_piece (local_bind local_codeUnit fun _ => local_pure [])) [])
    fun _ => local_pure ()

end RegionGateway.StringText

/-! ## Arrays and objects -/

namespace RegionGateway.Reader

variable {α σ : Type}

theorem local_anotherElement (first : Bool) : (anotherElement first).Local := by
  refine local_bind local_peekToken fun token => ?_
  split
  · exact local_fail _
  · exact local_pure false
  · split
    · exact local_pure true
    · split
      · refine local_bind local_advance fun _ => local_bind local_peekToken fun token => ?_
        split
        · exact local_fail _
        · exact local_fail _
        · exact local_pure true
      · exact local_fail _

theorem local_anotherMember (first : Bool) : (anotherMember first).Local := by
  refine local_bind local_peekToken fun token => ?_
  split
  · exact local_fail _
  · exact local_pure false
  · split
    · split
      · exact local_pure true
      · exact local_fail _
    · split
      · refine local_bind local_advance fun _ => local_bind local_peekToken fun token => ?_
        split
        · exact local_fail _
        · exact local_fail _
        · split
          · exact local_pure true
          · exact local_fail _
      · exact local_fail _

theorem local_colon : colon.Local := by
  refine local_bind local_peekToken fun token => ?_
  split
  · exact local_fail _
  · split
    · exact local_advance
    · exact local_fail _

theorem local_memberName : memberName.Local :=
  local_bind local_advance fun _ => StringText.local_read

theorem local_items {item : Reader α} (hitem : item.Local) : (items item).Local := by
  have hstep : ∀ read, (itemsStep item read).Local := by
    intro read
    refine local_bind (local_anotherElement _) fun another => ?_
    cases another with
    | false => exact local_pure _
    | true => exact local_bind hitem fun value => local_pure _
  exact local_bind local_advance fun _ => local_bind (local_loop hstep []) fun read =>
    local_bind local_advance fun _ => local_pure read

/-- An object has no other member only where its bracket is. -/
theorem anotherMember_false {first : Bool} {input rest : Bytes}
    (h : anotherMember first input = .ok (false, rest)) : rest ≠ [] := by
  obtain ⟨token, middle, hpeek, htoken⟩ := bind_eq_ok.mp h
  split at htoken
  · cases htoken
  · cases htoken
    exact peekToken_some hpeek
  · split at htoken
    · split at htoken <;> cases htoken
    · split at htoken
      · obtain ⟨_, _, -, htoken⟩ := bind_eq_ok.mp htoken
        obtain ⟨token, _, -, htoken⟩ := bind_eq_ok.mp htoken
        split at htoken
        · cases htoken
        · cases htoken
        · split at htoken <;> cases htoken
      · cases htoken

section

variable {member : String → σ → Reader σ} (hmember : ∀ name state, (member name state).Local)
include hmember

theorem local_membersStep (state : Bool × σ) : (membersStep member state).Local := by
  refine local_bind (local_anotherMember _) fun another => ?_
  cases another with
  | false => exact local_pure _
  | true =>
      exact local_bind local_memberName fun name =>
        local_bind (hmember name _) fun after => local_pure _

/-- The bracket that ends an object is there when the last member has been read. -/
theorem delimits_members (start : σ) : (members member start).Delimits := by
  have hloop : (loop (membersStep member) (true, start)).Local :=
    local_loop (local_membersStep hmember) _
  have hend : ∀ {input middle state}, loop (membersStep member) (true, start) input =
      .ok (state, middle) → middle ≠ [] := by
    intro input middle state h
    obtain ⟨last, before, hdone⟩ := loop_eq_ok h
    obtain ⟨another, after, hanother, hturn⟩ := bind_eq_ok.mp hdone
    cases another with
    | false =>
        cases hturn
        exact anotherMember_false hanother
    | true =>
        obtain ⟨_, _, -, hturn⟩ := bind_eq_ok.mp hturn
        obtain ⟨_, _, -, hturn⟩ := bind_eq_ok.mp hturn
        cases hturn
  have hrest : (loop (membersStep member) (true, start) >>= fun state =>
      advance >>= fun _ => return state).Delimits := by
    intro input state rest h
    obtain ⟨last, middle, hmiddle, hrest⟩ := bind_eq_ok.mp h
    obtain ⟨htaken, hgrown⟩ := hloop input last middle hmiddle
    cases middle with
    | nil => exact absurd rfl (hend hmiddle)
    | cons b tail =>
        cases hrest
        refine ⟨(List.suffix_cons b tail).trans htaken, fun more => ?_⟩
        rw [bind_ok _ (hgrown (List.cons_ne_nil b tail) more)]
        rfl
  exact delimits_bind local_advance fun _ => ⟨hrest, by rintro state rest ⟨⟩⟩

end

/-! ## Values -/

theorem local_anyValue {scalar : Scalar → Reader α} {list object : Reader α}
    (hscalar : ∀ s, (scalar s).Local) (hlist : list.Local) (hobject : object.Local) :
    (anyValue scalar list object).Local := by
  refine local_bind local_peekToken fun token => ?_
  split
  · exact local_fail _
  · exact hlist
  · exact hobject
  · exact local_bind local_advance fun _ => local_bind StringText.local_read fun s => hscalar _
  · exact local_bind (local_word _) fun _ => hscalar _
  · exact local_bind (local_word _) fun _ => hscalar _
  · exact local_bind (local_word _) fun _ => hscalar _
  · split
    · exact local_bind NumberText.local_readValue hscalar
    · exact local_fail _

/-- Where no scalar is accepted, a value ends with a bracket. -/
theorem delimits_anyValue {scalar : Scalar → Reader α} {list object : Reader α}
    (hscalar : ∀ s, (scalar s).Never) (hlist : list.Delimits ∧ list.Wants)
    (hobject : object.Delimits ∧ object.Wants) : (anyValue scalar list object).Delimits := by
  have hnever : ∀ {β : Type} (x : Reader β) (s : β → Scalar), (x >>= fun b => scalar (s b)).Never :=
    fun x s => never_bind x fun b => hscalar (s b)
  refine delimits_bind local_peekToken fun token => ?_
  split
  · exact (never_fail _).delimits
  · exact hlist
  · exact hobject
  · exact (never_bind _ fun _ => hnever _ _).delimits
  · exact (hnever _ _).delimits
  · exact (hnever _ _).delimits
  · exact (hnever _ _).delimits
  · split
    · exact (hnever _ _).delimits
    · exact (never_fail _).delimits

end RegionGateway.Reader

namespace RegionGateway.Json

open Reader

theorem local_read (depth : Nat) : (read depth).Local := by
  induction depth with
  | zero => 
      rw [read]
      exact local_anyValue (fun _ => local_pure _) (local_fail _) (local_fail _)
  | succ depth ih =>
      rw [read]
      refine local_anyValue (fun _ => local_pure _) ?_ ?_
      · exact local_bind (local_items ih) fun items => local_pure _
      · refine local_bind (delimits_members (fun name state => ?_) []).local fun members => local_pure _
        exact local_bind local_colon fun _ => local_bind ih fun value => local_pure _

section

variable {item item' : Reader Unit} (hitem : Persists item item')
include hitem

theorem persists_skipElement (first : Bool) :
    Persists (skipElement item first) (skipElement item' first) := by
  refine persists_bind local_peekToken fun token => ?_
  split
  · exact local_fail _
  · exact local_bind local_advance fun _ => local_pure _
  · split
    · exact persists_bind hitem fun _ => local_pure _
    · split
      · exact persists_bind local_advance fun _ => persists_bind hitem fun _ => local_pure _
      · exact local_fail _

theorem persists_skipMember : Persists (skipMember item) (skipMember item') := by
  refine persists_bind local_peekToken fun token => ?_
  split
  · exact local_fail _
  · split
    · exact persists_bind local_advance fun _ => persists_bind StringText.local_skip fun _ =>
        persists_bind local_colon fun _ => hitem
    · exact local_fail _

theorem persists_skipMembers (first : Bool) :
    Persists (skipMembers item first) (skipMembers item' first) := by
  refine persists_bind local_peekToken fun token => ?_
  split
  · exact local_fail _
  · exact local_bind local_advance fun _ => local_pure _
  · split
    · exact persists_bind (persists_skipMember hitem) fun _ => local_pure _
    · split
      · exact persists_bind local_advance fun _ =>
          persists_bind (persists_skipMember hitem) fun _ => local_pure _
      · exact local_fail _

end

/-- A higher bound on the nesting does not show. -/
theorem persists_skipFor {fuel fuel' : Nat} (h : fuel ≤ fuel') :
    Persists (skipFor fuel) (skipFor fuel') := by
  induction fuel generalizing fuel' with
  | zero => exact persists_fail _ _
  | succ fuel ih =>
      obtain ⟨fuel', rfl⟩ : ∃ n, fuel' = n + 1 := ⟨fuel' - 1, by omega⟩
      have hitem := ih (Nat.le_of_succ_le_succ h)
      rw [skipFor, skipFor]
      refine persists_bind local_peekToken fun token => ?_
      split
      · exact local_fail _
      · exact persists_bind local_advance fun _ => persists_loop (persists_skipElement hitem) true
      · exact persists_bind local_advance fun _ => persists_loop (persists_skipMembers hitem) true
      · exact local_bind local_advance fun _ => StringText.local_skip
      · exact local_word _
      · exact local_word _
      · exact local_word _
      · split
        · exact NumberText.local_skip
        · exact local_fail _

theorem local_skip : skip.Local := by
  intro input a rest h
  refine ⟨(persists_skipFor (Nat.le_refl _) input a rest h).1, fun hne more => ?_⟩
  have hle : input.length + 1 ≤ (input ++ more).length + 1 := by
    rw [List.length_append]
    omega
  exact (persists_skipFor hle input a rest h).2 hne more

end RegionGateway.Json
