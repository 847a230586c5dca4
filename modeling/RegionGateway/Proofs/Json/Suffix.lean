import RegionGateway.Proofs.Json.Traversal

/-!
# What readers leave

A reader takes bytes off the front of its input, so what it leaves is an end of its input (`Shortens`).
A reader of a value takes one byte at least (`Consumes`). What `anyValue` does is settled by the
input alone, whatever is done with scalars, arrays and objects (`anyValue_choice`).
-/

namespace RegionGateway.Reader

variable {α β σ : Type}

theorem bind_eq_ok {x : Reader α} {f : α → Reader β} {input rest : Bytes} {b : β} :
    (x >>= f) input = .ok (b, rest) ↔
      ∃ a middle, x input = .ok (a, middle) ∧ f a middle = .ok (b, rest) := by
  constructor
  · intro h
    cases hx : x input with
    | error fault =>
        rw [bind_error f hx] at h
        cases h
    | ok result =>
        obtain ⟨a, middle⟩ := result
        rw [bind_ok f hx] at h
        exact ⟨a, middle, rfl, h⟩
  · rintro ⟨a, middle, hx, hf⟩
    rw [bind_ok f hx, hf]

/-- What the reader leaves is an end of its input. -/
def Shortens (x : Reader α) : Prop := ∀ input a rest, x input = .ok (a, rest) → rest <:+ input

/-- Of an input that is not empty, the reader takes a byte at least. -/
def Consumes (x : Reader α) : Prop :=
  ∀ b tail a rest, x (b :: tail) = .ok (a, rest) → rest <:+ tail

/-! ## Sequences and loops -/

theorem shortens_pure (a : α) : (pure a : Reader α).Shortens := by
  rintro input b rest ⟨⟩
  exact List.suffix_refl input

theorem shortens_fail (fault : Fault) : (fail fault : Reader α).Shortens := by
  rintro input a rest ⟨⟩

theorem shortens_bind {x : Reader α} {f : α → Reader β} (hx : x.Shortens)
    (hf : ∀ a, (f a).Shortens) : (x >>= f).Shortens := by
  intro input b rest h
  obtain ⟨a, middle, hmiddle, hrest⟩ := bind_eq_ok.mp h
  exact (hf a middle b rest hrest).trans (hx input a middle hmiddle)

theorem shortens_map {x : Reader α} (f : α → β) (hx : x.Shortens) : (f <$> x).Shortens :=
  shortens_bind hx fun a => shortens_pure (f a)

theorem shortens_peek : peek.Shortens := by
  rintro input c rest ⟨⟩
  exact List.suffix_refl input

theorem shortens_advance : advance.Shortens := by
  rintro input c rest ⟨⟩
  exact List.drop_suffix 1 input

theorem shortens_next : next.Shortens :=
  shortens_bind shortens_peek fun c => shortens_bind shortens_advance fun _ => shortens_pure c

theorem shortens_peekToken : peekToken.Shortens := by
  rintro input c rest ⟨⟩
  exact List.dropWhile_suffix _

theorem shortens_digits : digits.Shortens := by
  rintro input ds rest ⟨⟩
  exact List.dropWhile_suffix _

theorem shortens_loop {step : σ → Reader (Turn σ α)} (hstep : ∀ state, (step state).Shortens)
    (state : σ) : (loop step state).Shortens := by
  have hfor : ∀ bound state, (loopFor step bound state).Shortens := by
    intro bound
    induction bound with
    | zero => exact fun _ => shortens_fail _
    | succ bound ih =>
        intro state
        refine shortens_bind (hstep state) fun turn => ?_
        cases turn with
        | again after => exact ih after
        | done result => exact shortens_pure result
  exact fun input => hfor (input.length + 1) state input

theorem loopFor_eq_ok {step : σ → Reader (Turn σ α)} {bound : Nat} {state : σ} {input rest : Bytes}
    {a : α} (h : loopFor step bound state input = .ok (a, rest)) :
    ∃ less, bound = less + 1 ∧ (step state input = .ok (.done a, rest) ∨
      ∃ after middle, step state input = .ok (.again after, middle) ∧
        loopFor step less after middle = .ok (a, rest)) := by
  cases bound with
  | zero => cases h
  | succ less =>
      obtain ⟨turn, middle, hstep, hturn⟩ := bind_eq_ok.mp h
      refine ⟨less, rfl, ?_⟩
      cases turn with
      | again after => exact .inr ⟨after, middle, hstep, hturn⟩
      | done result =>
          cases hturn
          exact .inl hstep

theorem shortens_word (cs : List Char) : (word cs).Shortens := by
  induction cs with
  | nil => exact shortens_pure ()
  | cons c cs ih =>
      refine shortens_bind shortens_next fun d => ?_
      split
      · exact shortens_fail _
      · split
        · exact ih
        · exact shortens_fail _

theorem consumes_advance : advance.Consumes := by
  rintro b tail a rest ⟨⟩
  exact List.suffix_refl tail

theorem consumes_bind {x : Reader α} {f : α → Reader β} (hx : x.Consumes)
    (hf : ∀ a, (f a).Shortens) : (x >>= f).Consumes := by
  intro b tail c rest h
  obtain ⟨a, middle, hmiddle, hrest⟩ := bind_eq_ok.mp h
  exact (hf a middle c rest hrest).trans (hx b tail a middle hmiddle)

theorem consumes_word (c : Char) (cs : List Char) : (word (c :: cs)).Consumes := by
  have hnext : next.Consumes := by
    rintro b tail d rest ⟨⟩
    exact List.suffix_refl tail
  refine consumes_bind hnext fun d => ?_
  split
  · exact shortens_fail _
  · split
    · exact shortens_word cs
    · exact shortens_fail _

end RegionGateway.Reader

/-! ## Numbers and strings -/

namespace RegionGateway.NumberText

open Reader

theorem shortens_someDigits (atEnd : Fault) : (someDigits atEnd).Shortens := by
  refine shortens_bind shortens_digits fun digits => ?_
  dsimp only
  split
  · refine shortens_bind shortens_peek fun c => ?_
    split
    · exact shortens_fail _
    · exact shortens_fail _
  · exact shortens_pure digits

theorem consumes_someDigits (atEnd : Fault) : (someDigits atEnd).Consumes := by
  intro b tail ds rest h
  obtain ⟨digits, middle, hdigits, hrest⟩ := bind_eq_ok.mp h
  cases hdigits
  by_cases hb : (decide (0x30 ≤ b) && decide (b ≤ 0x39)) = true
  · -- the first byte is a digit, and only digits are taken behind it
    simp only [List.takeWhile_cons, List.dropWhile_cons, hb, if_true, List.map_cons,
      List.isEmpty_cons, Bool.false_eq_true, if_false] at hrest
    cases hrest
    exact List.dropWhile_suffix _
  · simp only [List.takeWhile_cons, List.dropWhile_cons, hb, Bool.false_eq_true, if_false,
      List.map_nil, List.isEmpty_nil, if_true] at hrest
    cases hrest

theorem shortens_readWhole (atEnd : Fault) : (readWhole atEnd).Shortens := by
  refine shortens_bind (shortens_someDigits atEnd) fun digits => ?_
  split
  · exact shortens_fail _
  · exact shortens_pure _

theorem consumes_readWhole (atEnd : Fault) : (readWhole atEnd).Consumes := by
  refine consumes_bind (consumes_someDigits atEnd) fun digits => ?_
  split
  · exact shortens_fail _
  · exact shortens_pure _

theorem shortens_readFraction (atEnd : Fault) : (readFraction atEnd).Shortens := by
  refine shortens_bind shortens_peek fun c => ?_
  split
  · exact shortens_bind shortens_advance fun _ =>
      shortens_bind (shortens_someDigits atEnd) fun digits => shortens_pure _
  · exact shortens_pure none

theorem shortens_readExponent (atEnd : Fault) : (readExponent atEnd).Shortens := by
  refine shortens_bind shortens_peek fun c => ?_
  dsimp only
  split
  · refine shortens_bind shortens_advance fun _ => shortens_bind shortens_peek fun sign => ?_
    split
    · exact shortens_bind shortens_advance fun _ =>
        shortens_bind (shortens_someDigits atEnd) fun digits => shortens_pure _
    · exact shortens_bind (shortens_someDigits atEnd) fun digits => shortens_pure _
  · exact shortens_pure none

theorem shortens_parts (atEnd : Fault) (negative : Bool) (whole : List Nat) : (do
    let fraction ← readFraction atEnd
    let exponent ← readExponent atEnd
    return ⟨negative, whole, fraction, exponent⟩ : Reader NumberText).Shortens :=
  shortens_bind (shortens_readFraction atEnd) fun _ =>
    shortens_bind (shortens_readExponent atEnd) fun _ => shortens_pure _

theorem shortens_read (atEnd : Fault) : (read atEnd).Shortens := by
  refine shortens_bind shortens_peek fun c => ?_
  dsimp only
  split
  · exact shortens_bind shortens_advance fun _ =>
      shortens_bind (shortens_readWhole atEnd) (shortens_parts atEnd _)
  · exact shortens_bind (shortens_readWhole atEnd) (shortens_parts atEnd _)

theorem consumes_read (atEnd : Fault) : (read atEnd).Consumes := by
  intro b tail text rest h
  obtain ⟨c, middle, hpeek, hnumber⟩ := bind_eq_ok.mp h
  cases hpeek
  dsimp only at hnumber
  split at hnumber
  · obtain ⟨_, middle, hsign, hwhole⟩ := bind_eq_ok.mp hnumber
    cases hsign
    exact shortens_bind (shortens_readWhole atEnd) (shortens_parts atEnd _) tail text rest hwhole
  · exact consumes_bind (consumes_readWhole atEnd) (shortens_parts atEnd _) b tail text rest hnumber

theorem consumes_readValue : readValue.Consumes := by
  refine consumes_bind (consumes_read _) fun text => ?_
  split
  · exact shortens_pure _
  · exact shortens_fail _

end RegionGateway.NumberText

namespace RegionGateway.StringText

open Reader

theorem shortens_codeUnit : codeUnit.Shortens := by
  intro input n rest h
  unfold codeUnit at h
  split at h
  · split at h
    · cases h
      exact List.suffix_append [_, _, _, _] _
    · cases h
  · cases h

theorem shortens_expectInPair (c : Char) : (expectInPair c).Shortens := by
  refine shortens_bind shortens_next fun d => ?_
  split
  · exact shortens_fail _
  · split
    · exact shortens_pure ()
    · exact shortens_fail _

theorem shortens_codePoint : codePoint.Shortens := by
  refine shortens_bind shortens_codeUnit fun high => ?_
  split
  · exact shortens_fail _
  · split
    · refine shortens_bind (shortens_expectInPair _) fun _ =>
        shortens_bind (shortens_expectInPair _) fun _ => shortens_bind shortens_codeUnit fun low => ?_
      split
      · exact shortens_pure _
      · exact shortens_fail _
    · exact shortens_pure _

theorem shortens_escape {unit : Reader Bytes} (hunit : unit.Shortens) : (escape unit).Shortens := by
  refine shortens_bind shortens_next fun c => ?_
  split
  · exact shortens_fail _
  · exact hunit
  · split
    · exact shortens_pure _
    · exact shortens_fail _

theorem shortens_piece {unit : Reader Bytes} (hunit : unit.Shortens) (content : Bytes) :
    (piece unit content).Shortens := by
  intro input turn rest h
  unfold piece at h
  split at h
  · cases h
  · next b tail =>
      have htail : tail <:+ b :: tail := List.suffix_cons b tail
      split at h
      · cases h
        exact htail
      split at h
      · split at h
        · cases h
        · next bytes left hescape =>
            cases h
            exact (shortens_escape hunit tail bytes rest hescape).trans htail
      split at h
      · cases h
      · cases h
        exact htail

theorem shortens_read : read.Shortens := by
  have hcontent : content.Shortens :=
    shortens_loop (shortens_piece (shortens_map _ shortens_codePoint)) []
  refine shortens_bind hcontent fun bytes => ?_
  split
  · exact shortens_pure _
  · exact shortens_fail _

end RegionGateway.StringText

/-! ## Arrays and objects -/

namespace RegionGateway.Reader

variable {α σ : Type}

theorem shortens_anotherElement (first : Bool) : (anotherElement first).Shortens := by
  refine shortens_bind shortens_peekToken fun token => ?_
  split
  · exact shortens_fail _
  · exact shortens_pure false
  · split
    · exact shortens_pure true
    · split
      · refine shortens_bind shortens_advance fun _ => shortens_bind shortens_peekToken fun token => ?_
        split
        · exact shortens_fail _
        · exact shortens_fail _
        · exact shortens_pure true
      · exact shortens_fail _

theorem shortens_anotherMember (first : Bool) : (anotherMember first).Shortens := by
  refine shortens_bind shortens_peekToken fun token => ?_
  split
  · exact shortens_fail _
  · exact shortens_pure false
  · split
    · split
      · exact shortens_pure true
      · exact shortens_fail _
    · split
      · refine shortens_bind shortens_advance fun _ => shortens_bind shortens_peekToken fun token => ?_
        split
        · exact shortens_fail _
        · exact shortens_fail _
        · split
          · exact shortens_pure true
          · exact shortens_fail _
      · exact shortens_fail _

theorem shortens_colon : colon.Shortens := by
  refine shortens_bind shortens_peekToken fun token => ?_
  split
  · exact shortens_fail _
  · split
    · exact shortens_advance
    · exact shortens_fail _

theorem shortens_memberName : memberName.Shortens :=
  shortens_bind shortens_advance fun _ => StringText.shortens_read

theorem shortens_itemsStep {item : Reader α} (hitem : item.Shortens) (read : List α) :
    (itemsStep item read).Shortens := by
  refine shortens_bind (shortens_anotherElement _) fun another => ?_
  cases another with
  | false => exact shortens_pure _
  | true => exact shortens_bind hitem fun value => shortens_pure _

theorem consumes_items {item : Reader α} (hitem : item.Shortens) : (items item).Consumes :=
  consumes_bind consumes_advance fun _ => shortens_bind (shortens_loop (shortens_itemsStep hitem) [])
    fun read => shortens_bind shortens_advance fun _ => shortens_pure read

section

variable {member : String → σ → Reader σ} (hmember : ∀ name state, (member name state).Shortens)
include hmember

theorem shortens_membersStep (state : Bool × σ) : (membersStep member state).Shortens := by
  refine shortens_bind (shortens_anotherMember _) fun another => ?_
  cases another with
  | false => exact shortens_pure _
  | true =>
      exact shortens_bind shortens_memberName fun name =>
        shortens_bind (hmember name _) fun after => shortens_pure _

theorem shortens_membersLoop (start : σ) : (loop (membersStep member) (true, start) >>= fun state =>
    advance >>= fun _ => return state).Shortens :=
  shortens_bind (shortens_loop (shortens_membersStep hmember) _) fun state =>
    shortens_bind shortens_advance fun _ => shortens_pure state

theorem consumes_members (start : σ) : (members member start).Consumes :=
  consumes_bind consumes_advance fun _ => shortens_membersLoop hmember start

theorem shortens_members (start : σ) : (members member start).Shortens :=
  shortens_bind shortens_advance fun _ => shortens_membersLoop hmember start

end

/-! ## Values -/

/-- What `anyValue` makes of an input. -/
inductive Choice (input : Bytes) : Prop
  | fault (fault : Fault)
    (happly : ∀ {β : Type} (scalar : Scalar → Reader β) (list object : Reader β),
      anyValue scalar list object input = .error fault)
  | scalar (value : Scalar) (rest : Bytes) (hrest : rest <:+ input) (hless : rest.length < input.length)
    (happly : ∀ {β : Type} (scalar : Scalar → Reader β) (list object : Reader β),
      anyValue scalar list object input = scalar value rest)
  | list (tail : Bytes) (hinput : 0x5B :: tail <:+ input)
    (happly : ∀ {β : Type} (scalar : Scalar → Reader β) (list object : Reader β),
      anyValue scalar list object input = list (0x5B :: tail))
  | object (tail : Bytes) (hinput : 0x7B :: tail <:+ input)
    (happly : ∀ {β : Type} (scalar : Scalar → Reader β) (list object : Reader β),
      anyValue scalar list object input = object (0x7B :: tail))

/-- A scalar that is read and handed on. -/
theorem Choice.ofScalar {input : Bytes} {b : UInt8} {tail : Bytes} (hinput : b :: tail <:+ input)
    {x : Reader Scalar} (hx : x.Consumes)
    (happly : ∀ {β : Type} (scalar : Scalar → Reader β) (list object : Reader β),
      anyValue scalar list object input = (x >>= scalar) (b :: tail)) : Choice input := by
  cases hread : x (b :: tail) with
  | error fault => exact .fault fault fun scalar list object => by rw [happly, bind_error _ hread]
  | ok result =>
      obtain ⟨value, rest⟩ := result
      have hrest : rest <:+ tail := hx b tail value rest hread
      refine .scalar value rest (hrest.trans ((List.suffix_cons b tail).trans hinput)) ?_
        fun scalar list object => by rw [happly, bind_ok _ hread]
      exact Nat.lt_of_le_of_lt hrest.length_le
        (Nat.lt_of_lt_of_le (Nat.lt_succ_self _) hinput.length_le)

/-- A byte is known from its character. -/
theorem byte_of_char {b c : UInt8} (h : Char.ofNat b.toNat = Char.ofNat c.toNat) : b = c := by
  have htoNat : ∀ n < 256, (Char.ofNat n).toNat = n := by decide +kernel
  have hnat := congrArg Char.toNat h
  rw [htoNat _ b.toNat_lt, htoNat _ c.toNat_lt] at hnat
  exact UInt8.toNat.inj hnat

theorem peekToken_stripped {input tail : Bytes} {b : UInt8}
    (h : input.dropWhile isBlank = b :: tail) :
    peekToken input = .ok (some (Char.ofNat b.toNat), b :: tail) := by
  show Except.ok _ = _
  rw [h]
  rfl

theorem anyValue_choice (input : Bytes) : Choice input := by
  cases hstripped : input.dropWhile isBlank with
  | nil =>
      have hpeek : peekToken input = .ok (none, []) := by
        show Except.ok _ = _
        rw [hstripped]
        rfl
      exact .fault .endInValue fun scalar list object => by rw [anyValue, bind_ok _ hpeek]; rfl
  | cons b tail =>
      have hinput : b :: tail <:+ input := hstripped ▸ List.dropWhile_suffix _
      have hpeek := peekToken_stripped hstripped
      -- the first byte decides; of the scalars, each is read by a reader that takes a byte at least
      by_cases hlist : Char.ofNat b.toNat = '['
      · obtain rfl : b = 0x5B := byte_of_char hlist
        exact .list tail hinput fun scalar list object => by rw [anyValue, bind_ok _ hpeek]; rfl
      by_cases hobject : Char.ofNat b.toNat = '\x7b'
      · obtain rfl : b = 0x7B := byte_of_char hobject
        exact .object tail hinput fun scalar list object => by rw [anyValue, bind_ok _ hpeek]; rfl
      by_cases hquote : Char.ofNat b.toNat = '"'
      · have hstring : (advance >>= fun _ => Scalar.str <$> StringText.read).Consumes :=
          consumes_bind consumes_advance fun _ => shortens_map _ StringText.shortens_read
        refine .ofScalar hinput hstring fun scalar list object => ?_
        rw [anyValue, bind_ok _ hpeek, hquote]
        simp only [bind_assoc, bind_map_left]
      by_cases hnull : Char.ofNat b.toNat = 'n'
      · have hword : ((fun _ => Scalar.null) <$> word ['n', 'u', 'l', 'l']).Consumes :=
          consumes_bind (consumes_word _ _) fun _ => shortens_pure _
        refine .ofScalar hinput hword fun scalar list object => ?_
        rw [anyValue, bind_ok _ hpeek, hnull]
        simp only [bind_map_left]
      by_cases htrue : Char.ofNat b.toNat = 't'
      · have hword : ((fun _ => Scalar.bool true) <$> word ['t', 'r', 'u', 'e']).Consumes :=
          consumes_bind (consumes_word _ _) fun _ => shortens_pure _
        refine .ofScalar hinput hword fun scalar list object => ?_
        rw [anyValue, bind_ok _ hpeek, htrue]
        simp only [bind_map_left]
      by_cases hfalse : Char.ofNat b.toNat = 'f'
      · have hword : ((fun _ => Scalar.bool false) <$> word ['f', 'a', 'l', 's', 'e']).Consumes :=
          consumes_bind (consumes_word _ _) fun _ => shortens_pure _
        refine .ofScalar hinput hword fun scalar list object => ?_
        rw [anyValue, bind_ok _ hpeek, hfalse]
        simp only [bind_map_left]
      by_cases hnumber : Char.ofNat b.toNat = '-' ∨
          ('0' ≤ Char.ofNat b.toNat ∧ Char.ofNat b.toNat ≤ '9')
      · refine .ofScalar hinput NumberText.consumes_readValue fun scalar list object => ?_
        rw [anyValue, bind_ok _ hpeek]
        generalize Char.ofNat b.toNat = c at hlist hobject hquote hnull htrue hfalse hnumber
        simp only [if_pos hnumber]
      · refine .fault .valueExpected fun scalar list object => ?_
        rw [anyValue, bind_ok _ hpeek]
        generalize Char.ofNat b.toNat = c at hlist hobject hquote hnull htrue hfalse hnumber
        simp only [if_neg hnumber]
        rfl

end RegionGateway.Reader

namespace RegionGateway.Json

open Reader

theorem consumes_anyValue {α : Type} {scalar : Scalar → Reader α} {list object : Reader α}
    (hscalar : ∀ s, (scalar s).Shortens) (hlist : list.Consumes) (hobject : object.Consumes) :
    ∀ input a rest, anyValue scalar list object input = .ok (a, rest) →
      rest <:+ input ∧ rest.length < input.length := by
  intro input a rest h
  cases anyValue_choice input with
  | fault fault happly =>
      rw [happly] at h
      cases h
  | scalar value middle hmiddle hless happly =>
      rw [happly] at h
      have hrest := hscalar value middle a rest h
      exact ⟨hrest.trans hmiddle, Nat.lt_of_le_of_lt hrest.length_le hless⟩
  | list tail hinput happly =>
      rw [happly] at h
      have hrest := hlist 0x5B tail a rest h
      exact ⟨hrest.trans ((List.suffix_cons _ tail).trans hinput),
        Nat.lt_of_le_of_lt hrest.length_le
          (Nat.lt_of_lt_of_le (Nat.lt_succ_self _) hinput.length_le)⟩
  | object tail hinput happly =>
      rw [happly] at h
      have hrest := hobject 0x7B tail a rest h
      exact ⟨hrest.trans ((List.suffix_cons _ tail).trans hinput),
        Nat.lt_of_le_of_lt hrest.length_le
          (Nat.lt_of_lt_of_le (Nat.lt_succ_self _) hinput.length_le)⟩

/-- A value takes one byte at least. -/
theorem read_takes (depth : Nat) : ∀ input value rest, read depth input = .ok (value, rest) →
    rest <:+ input ∧ rest.length < input.length := by
  induction depth with
  | zero =>
      rw [read]
      have hfail : (fail .tooDeep : Reader Json).Consumes := by
        rintro b tail a rest ⟨⟩
      exact consumes_anyValue (fun s => shortens_pure _) hfail hfail
  | succ depth ih =>
      have hread : (read depth).Shortens := fun input value rest h => (ih input value rest h).1
      rw [read]
      refine consumes_anyValue (fun s => shortens_pure _) ?_ ?_
      · exact consumes_bind (consumes_items hread) fun items => shortens_pure _
      · refine consumes_bind (consumes_members (fun name state => ?_) []) fun members => shortens_pure _
        exact shortens_bind shortens_colon fun _ => shortens_bind hread fun value => shortens_pure _

theorem shortens_read (depth : Nat) : (read depth).Shortens :=
  fun input value rest h => (read_takes depth input value rest h).1

end RegionGateway.Json
