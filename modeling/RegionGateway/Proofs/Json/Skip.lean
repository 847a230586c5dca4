import Mathlib.Data.List.DropRight
import RegionGateway.Proofs.Json.AnyRead
import RegionGateway.Proofs.Json.Follow

/-!
# Values that are passed over

`Json.skip` checks the grammar of a value and `Json.read` builds the value. Where the first succeeds,
the second takes the same bytes, unless something stands there that is well-formed and has no value:
half of a surrogate pair, bytes that are not UTF-8, a number out of range, or too many open brackets
(`skip_followedBy`).

Strings need an argument of their own. The reader takes a surrogate pair in one step and the other one
in two, so the two loops do not go on together (`content_of_passed`).
-/

namespace RegionGateway

open Reader

/-- The faults that stop the reader of a value where one can be passed over. -/
def unreadable : List Fault := [.pairBroken, .loneSurrogate, .badUnicode, .numberRange, .tooDeep]

/-- These faults as a kind; where they come from does not matter. -/
def FaultKind.unreadable : FaultKind where
  tells _ fault := fault ∈ RegionGateway.unreadable
  inherited _ h := h

/-! ## Numbers -/

namespace NumberText

variable {kind : FaultKind}

/-- With which fault a number would stop does not matter to one that is read. -/
theorem someDigits_followedBy (atEnd atEnd' : Fault) :
    (someDigits atEnd).FollowedBy kind (fun a b => a = b) (someDigits atEnd') := by
  refine followedBy_bind_left shortens_digits fun digits => ?_
  dsimp only
  split
  · refine followedBy_bind_left shortens_peek fun c => ?_
    cases c with
    | none => exact followedBy_fail _ _
    | some c => exact followedBy_fail _ _
  · exact followedBy_pure rfl

theorem readWhole_followedBy (atEnd atEnd' : Fault) :
    (readWhole atEnd).FollowedBy kind (fun a b => a = b) (readWhole atEnd') :=
  (someDigits_followedBy atEnd atEnd').bind_same (shortens_someDigits _) fun _ => followedBy_refl _

theorem readFraction_followedBy (atEnd atEnd' : Fault) :
    (readFraction atEnd).FollowedBy kind (fun a b => a = b) (readFraction atEnd') := by
  refine followedBy_bind_left shortens_peek fun c => ?_
  split
  · refine followedBy_bind_left shortens_advance fun _ => ?_
    exact (someDigits_followedBy atEnd atEnd').bind_same (shortens_someDigits _)
      fun digits => followedBy_pure rfl
  · exact followedBy_pure rfl

theorem readExponent_followedBy (atEnd atEnd' : Fault) :
    (readExponent atEnd).FollowedBy kind (fun a b => a = b) (readExponent atEnd') := by
  have hdigits : ∀ negative : Bool, (someDigits atEnd >>= fun digits =>
      (return some (negative, digits) : Reader (Option (Bool × List Nat)))).FollowedBy kind
      (fun a b => a = b) (someDigits atEnd' >>= fun digits => return some (negative, digits)) :=
    fun negative => (someDigits_followedBy atEnd atEnd').bind_same (shortens_someDigits _)
      fun digits => followedBy_pure rfl
  refine followedBy_bind_left shortens_peek fun c => ?_
  dsimp only
  split
  · refine followedBy_bind_left shortens_advance fun _ => followedBy_bind_left shortens_peek
      fun sign => ?_
    split
    · exact followedBy_bind_left shortens_advance fun _ => hdigits _
    · exact hdigits _
  · exact followedBy_pure rfl

theorem read_followedBy (atEnd atEnd' : Fault) :
    (read atEnd).FollowedBy kind (fun a b => a = b) (read atEnd') := by
  have hrest : ∀ negative : Bool, (readWhole atEnd >>= fun whole => readFraction atEnd >>= fun fraction =>
      readExponent atEnd >>= fun exponent =>
        (return ⟨negative, whole, fraction, exponent⟩ : Reader NumberText)).FollowedBy kind
      (fun a b => a = b) (readWhole atEnd' >>= fun whole => readFraction atEnd' >>= fun fraction =>
        readExponent atEnd' >>= fun exponent => return ⟨negative, whole, fraction, exponent⟩) := by
    intro negative
    refine (readWhole_followedBy atEnd atEnd').bind_same (shortens_readWhole _) fun whole => ?_
    refine (readFraction_followedBy atEnd atEnd').bind_same (shortens_readFraction _) fun fraction => ?_
    exact (readExponent_followedBy atEnd atEnd').bind_same (shortens_readExponent _)
      fun exponent => followedBy_pure rfl
  refine followedBy_bind_left shortens_peek fun c => ?_
  dsimp only
  split
  · exact followedBy_bind_left shortens_advance fun _ => hrest _
  · exact hrest _

/-- Only the range of a number is not looked at when it is passed over. -/
theorem skip_followedBy :
    skip.FollowedBy .unreadable (fun _ _ => True) readValue := by
  refine (read_followedBy .badNumber .endInValue).bind_same (shortens_read _) fun text => ?_
  rintro input ⟨⟩ rest ⟨⟩
  cases hvalue : text.value with
  | none => exact .inr ⟨.numberRange, rfl, by simp [FaultKind.unreadable, unreadable]⟩
  | some number => exact .inl ⟨number, rfl, trivial⟩

end NumberText

/-! ## Strings -/

namespace StringText

/-- Passes over a code unit. -/
def passUnit : Reader Bytes := do
  let _ ← codeUnit
  return []

/-- Reads a character given by code units. -/
def readUnit : Reader Bytes := Utf8.encodeChar <$> codePoint

/-- The second half of a surrogate pair. -/
def lowHalf : Reader Nat := do
  expectInPair '\\'
  expectInPair 'u'
  codeUnit

theorem piece_eq_ok {unit : Reader Bytes} {content input rest : Bytes} {turn : Turn Bytes Bytes}
    (h : piece unit content input = .ok (turn, rest)) :
    (input = 0x22 :: rest ∧ turn = .done content.reverse) ∨
    (∃ tail bytes, input = 0x5C :: tail ∧ escape unit tail = .ok (bytes, rest) ∧
      turn = .again (bytes.reverse ++ content)) ∨
    (∃ b, input = b :: rest ∧ turn = .again (b :: content) ∧ b ≠ 0x5C ∧ ∀ unit content,
      piece unit content input = .ok (.again (b :: content), rest)) := by
  unfold piece at h
  split at h
  · cases h
  · next b tail =>
      split at h
      · next hquote =>
          cases h
          exact .inl ⟨by rw [hquote], rfl⟩
      · next hquote =>
          split at h
          · next hescape =>
              split at h
              · cases h
              · next bytes left hread =>
                  cases h
                  exact .inr (.inl ⟨tail, bytes, by rw [hescape], hread, rfl⟩)
          · next hescape =>
              split at h
              · cases h
              · next hcontrol =>
                  cases h
                  refine .inr (.inr ⟨b, rfl, rfl, hescape, fun unit content => ?_⟩)
                  simp only [piece, if_neg hquote, if_neg hescape, if_neg hcontrol]

theorem escape_eq_ok {unit : Reader Bytes} {input bytes rest : Bytes}
    (h : escape unit input = .ok (bytes, rest)) :
    (∃ tail, input = 0x75 :: tail ∧ unit tail = .ok (bytes, rest)) ∨
    (∃ e tail, input = e :: tail ∧ e ≠ 0x75 ∧ ∀ unit, escape unit input = .ok (bytes, rest)) := by
  cases input with
  | nil => cases h
  | cons e tail =>
      rw [escape, bind_ok _ (next_cons e tail)] at h
      by_cases hunit : Char.ofNat e.toNat = 'u'
      · obtain rfl : e = 0x75 := byte_of_char hunit
        exact .inl ⟨tail, rfl, h⟩
      · refine .inr ⟨e, tail, rfl, fun he => hunit (he ▸ rfl), fun unit' => ?_⟩
        rw [escape, bind_ok _ (next_cons e tail)]
        generalize Char.ofNat e.toNat = c at h hunit ⊢
        simp only at h ⊢
        exact h

/-- Where a string goes on after a code unit, a second half of a pair can be read, or the pair is
broken. -/
theorem lowHalf_of_passed {bound : Nat} {content input result rest : Bytes}
    (h : loopFor (piece passUnit) bound content input = .ok (result, rest)) :
    lowHalf input = .error .pairBroken ∨ ∃ less low middle, bound = less + 1 ∧
      lowHalf input = .ok (low, middle) ∧
      loopFor (piece passUnit) less content middle = .ok (result, rest) := by
  obtain ⟨less, hless, hdone | ⟨after, middle, hagain, hrest⟩⟩ := loopFor_eq_ok h
  · rcases piece_eq_ok hdone with ⟨rfl, -⟩ | ⟨-, -, -, -, ⟨⟩⟩ | ⟨-, -, ⟨⟩, -⟩
    exact .inl rfl
  · rcases piece_eq_ok hagain with ⟨-, ⟨⟩⟩ | ⟨tail, bytes, rfl, hescape, hafter⟩ | ⟨b, rfl, -, hb, -⟩
    · rcases escape_eq_ok hescape with ⟨more, rfl, hunit⟩ | ⟨e, more, rfl, he, -⟩
      · -- the other loop takes the second half in a step of its own
        obtain ⟨low, left, hlow, hnothing⟩ := bind_eq_ok.mp hunit
        cases hnothing
        cases hafter
        exact .inr ⟨less, low, middle, hless, hlow, hrest⟩
      · refine .inl ?_
        have hchar : Char.ofNat e.toNat ≠ 'u' := fun hu => he (byte_of_char hu)
        have hfirst : expectInPair '\\' (0x5C :: e :: more) = .ok ((), e :: more) := rfl
        have hsecond : expectInPair 'u' (e :: more) = .error .pairBroken := by
          rw [expectInPair, bind_ok _ (next_cons e more)]
          simp only [if_neg hchar]
          rfl
        rw [lowHalf, bind_ok _ hfirst, bind_error _ hsecond]
    · refine .inl ?_
      have hchar : Char.ofNat b.toNat ≠ '\\' := fun hslash => hb (byte_of_char hslash)
      have hfirst : expectInPair '\\' (b :: middle) = .error .pairBroken := by
        rw [expectInPair, bind_ok _ (next_cons b middle)]
        simp only [if_neg hchar]
        rfl
      rw [lowHalf, bind_error _ hfirst]

/-- A code unit that is passed over is read as a character, alone or with what follows it. -/
theorem readUnit_of_passed {bound : Nat} {content input bytes middle result rest : Bytes}
    (hunit : passUnit input = .ok (bytes, middle))
    (h : loopFor (piece passUnit) bound content middle = .ok (result, rest)) :
    (∃ fault ∈ unreadable, readUnit input = .error fault) ∨
    ∃ less char left, less ≤ bound ∧ readUnit input = .ok (char, left) ∧
      loopFor (piece passUnit) less content left = .ok (result, rest) := by
  obtain ⟨high, left, hhigh, hnothing⟩ := bind_eq_ok.mp hunit
  cases hnothing
  by_cases hlow : 0xDC00 ≤ high ∧ high ≤ 0xDFFF
  · refine .inl ⟨.loneSurrogate, by decide, map_error _ ?_⟩
    rw [codePoint, bind_ok _ hhigh, if_pos hlow]
    rfl
  by_cases hpair : 0xD800 ≤ high ∧ high ≤ 0xDBFF
  · have hcodePoint : codePoint input = (do
        let low ← lowHalf
        if 0xDC00 ≤ low ∧ low ≤ 0xDFFF then
          return Char.ofNat ((high - 0xD800) * 0x400 + (low - 0xDC00) + 0x10000)
        else Reader.fail .loneSurrogate) middle := by
      rw [codePoint, bind_ok _ hhigh, if_neg hlow, if_pos hpair]
      simp only [lowHalf, bind_assoc]
    rcases lowHalf_of_passed h with hbroken | ⟨less, low, left, hless, hlowHalf, hrest⟩
    · refine .inl ⟨.pairBroken, by decide, map_error _ ?_⟩
      rw [hcodePoint, bind_error _ hbroken]
    · rw [bind_ok _ hlowHalf] at hcodePoint
      split at hcodePoint
      · exact .inr ⟨less, _, left, by omega, map_ok _ hcodePoint, hrest⟩
      · exact .inl ⟨.loneSurrogate, by decide, map_error _ hcodePoint⟩
  · refine .inr ⟨bound, _, middle, Nat.le_refl bound, map_ok _ (a := Char.ofNat high) ?_, h⟩
    rw [codePoint, bind_ok _ hhigh, if_neg hlow, if_neg hpair]
    rfl

/-- A string that is passed over is read to the same end. The loop of the reader takes as many steps as
the other one, or fewer. -/
theorem content_of_passed (bound : Nat) : ∀ {enough : Nat} {content content' input result rest : Bytes},
    bound ≤ enough → loopFor (piece passUnit) bound content input = .ok (result, rest) →
    (∃ fault ∈ unreadable, loopFor (piece readUnit) enough content' input = .error fault) ∨
    ∃ bytes, loopFor (piece readUnit) enough content' input = .ok (bytes, rest) := by
  induction bound using Nat.strongRecOn with
  | _ bound ih =>
      intro enough content content' input result rest henough h
      obtain ⟨less, rfl, hstep⟩ := loopFor_eq_ok h
      obtain ⟨enough, rfl⟩ : ∃ n, enough = n + 1 := ⟨enough - 1, by omega⟩
      -- after a step of the reader that goes on, fewer steps of the other loop are left
      have hgo : ∀ {fewer : Nat} {after after' left : Bytes}, fewer ≤ less →
          loopFor (piece passUnit) fewer after left = .ok (result, rest) →
          piece readUnit content' input = .ok (.again after', left) →
          (∃ fault ∈ unreadable, loopFor (piece readUnit) (enough + 1) content' input = .error fault) ∨
          ∃ bytes, loopFor (piece readUnit) (enough + 1) content' input = .ok (bytes, rest) := by
        intro fewer after after' left hfewer hrest hread
        rw [loopFor, bind_ok _ hread]
        exact ih fewer (by omega) (by omega) hrest
      rcases hstep with hdone | ⟨after, middle, hagain, hrest⟩
      · rcases piece_eq_ok hdone with ⟨rfl, -⟩ | ⟨-, -, -, -, ⟨⟩⟩ | ⟨-, -, ⟨⟩, -⟩
        exact .inr ⟨content'.reverse, rfl⟩
      · rcases piece_eq_ok hagain with
          ⟨-, ⟨⟩⟩ | ⟨tail, bytes, rfl, hescape, hafter⟩ | ⟨b, rfl, -, -, hplain⟩
        · have hpiece : ∀ {given left : Bytes}, escape readUnit tail = .ok (given, left) →
              piece readUnit content' (0x5C :: tail) = .ok (.again (given.reverse ++ content'), left) := by
            intro given left hread
            simp only [piece, hread]
            rfl
          rcases escape_eq_ok hescape with ⟨more, rfl, hunit⟩ | ⟨e, more, rfl, -, hshort⟩
          · rcases readUnit_of_passed hunit hrest with
              ⟨fault, hfault, hread⟩ | ⟨fewer, char, left, hfewer, hread, hleft⟩
            · have hescape' : escape readUnit (0x75 :: more) = .error fault := hread
              have hstop : piece readUnit content' (0x5C :: 0x75 :: more) = .error fault := by
                simp only [piece, hescape']
                rfl
              exact .inl ⟨fault, hfault, bind_error _ hstop⟩
            · exact hgo hfewer hleft (hpiece hread)
          · exact hgo (Nat.le_refl less) hrest (hpiece (hshort readUnit))
        · exact hgo (Nat.le_refl less) hrest (hplain readUnit content')

/-- A string that can be passed over can be read, but for its surrogates and its bytes. -/
theorem skip_followedBy : skip.FollowedBy .unreadable (fun _ _ => True) read := by
  intro input a rest h
  obtain ⟨passed, middle, hpassed, hnothing⟩ := bind_eq_ok.mp h
  cases hnothing
  have hcontent : (∃ fault ∈ unreadable, content input = .error fault) ∨
      ∃ bytes, content input = .ok (bytes, rest) :=
    content_of_passed (input.length + 1) (Nat.le_refl _) hpassed
  rcases hcontent with ⟨fault, hfault, hstop⟩ | ⟨bytes, hbytes⟩
  · exact .inr ⟨fault, bind_error _ hstop, hfault⟩
  · rw [read, bind_ok _ hbytes]
    cases htext : Utf8.text? bytes with
    | none => exact .inr ⟨.badUnicode, rfl, by simp [FaultKind.unreadable, unreadable]⟩
    | some s => exact .inl ⟨s, rfl, trivial⟩

end StringText

/-! ## Values -/

namespace Json

theorem peekToken_dropWhile (input : Bytes) : peekToken (input.dropWhile isBlank) = peekToken input := by
  show Except.ok _ = Except.ok _
  rw [List.dropWhile_idempotent isBlank input]

theorem peekToken_nil {input : Bytes} (h : input.dropWhile isBlank = []) :
    peekToken input = .ok (none, []) := by
  show Except.ok _ = _
  rw [h]
  rfl

theorem read_dropWhile (depth : Nat) (input : Bytes) :
    read depth (input.dropWhile isBlank) = read depth input := by
  cases depth with
  | zero =>
      rw [read]
      exact bind_congr _ (peekToken_dropWhile input)
  | succ depth =>
      rw [read]
      exact bind_congr _ (peekToken_dropWhile input)

/-- A value that is passed over starts with a byte, which closes no array. -/
def Begins (item : Reader Unit) : Prop := ∀ input rest, item input = .ok ((), rest) →
  ∃ b tail, input.dropWhile isBlank = b :: tail ∧ b ≠ 0x5D

/-- An element that is passed over stands where an array has another one, and the end where it has
none. -/
theorem skipElement_eq_ok {item : Reader Unit} (hbegins : Begins item) {first : Bool}
    {input rest : Bytes} {turn : Turn Bool Unit} (h : skipElement item first input = .ok (turn, rest)) :
    (∃ start, anotherElement first input = .ok (true, start.dropWhile isBlank) ∧
      item start = .ok ((), rest) ∧ turn = .again false) ∨
    (anotherElement first input = .ok (false, 0x5D :: rest) ∧ turn = .done ()) := by
  cases hstripped : input.dropWhile isBlank with
  | nil =>
      rw [skipElement, bind_ok _ (peekToken_nil hstripped)] at h
      cases h
  | cons b tail =>
      have hpeek := peekToken_stripped hstripped
      have hsame : (b :: tail).dropWhile isBlank = b :: tail := by
        rw [← hstripped, List.dropWhile_idempotent]
      rw [skipElement, bind_ok _ hpeek] at h
      rw [anotherElement, bind_ok _ hpeek]
      by_cases hclose : b = 0x5D
      · subst hclose
        cases h
        exact .inr ⟨rfl, rfl⟩
      have hchar : Char.ofNat b.toNat ≠ ']' := fun hc => hclose (byte_of_char hc)
      cases first with
      | true =>
          have helement : (item >>= fun _ => (return .again false : Reader (Turn Bool Unit)))
              (b :: tail) = .ok (turn, rest) := by
            generalize Char.ofNat b.toNat = c at h hchar
            simpa only [if_true] using h
          obtain ⟨_, middle, hitem, hturn⟩ := bind_eq_ok.mp helement
          cases hturn
          refine .inl ⟨b :: tail, ?_, hitem, rfl⟩
          rw [hsame]
          generalize Char.ofNat b.toNat = c at hchar
          simp only [if_true]
          rfl
      | false =>
          by_cases hcomma : b = 0x2C
          · subst hcomma
            obtain ⟨_, middle, hadvance, helement⟩ := bind_eq_ok.mp h
            cases hadvance
            obtain ⟨_, middle, hitem, hturn⟩ := bind_eq_ok.mp helement
            cases hturn
            obtain ⟨d, more, hmore, hd⟩ := hbegins tail rest hitem
            have hchar : Char.ofNat d.toNat ≠ ']' := fun hc => hd (byte_of_char hc)
            refine .inl ⟨tail, ?_, hitem, rfl⟩
            show (advance >>= _) (0x2C :: tail) = _
            rw [bind_ok _ (advance_cons _ _), bind_ok _ (peekToken_stripped hmore), hmore]
            generalize Char.ofNat d.toNat = c at hchar
            simp only
            rfl
          · have hchar' : Char.ofNat b.toNat ≠ ',' := fun hc => hcomma (byte_of_char hc)
            generalize Char.ofNat b.toNat = c at h hchar hchar'
            simp only [if_neg hchar', Bool.false_eq_true, if_false] at h
            cases h

section

variable {α : Type} {item : Reader Unit} {item' : Reader α}
  (hitem : item.FollowedBy .unreadable (fun _ _ => True) item')
  (hbegins : Begins item) (hblank : ∀ input, item' (input.dropWhile isBlank) = item' input)
include hitem hblank

/-- An element that is passed over, in the place where the other reader looks for its next one. -/
theorem itemsStep_of_passed {read : List α} {input start rest : Bytes}
    (hnext : anotherElement read.isEmpty input = .ok (true, start.dropWhile isBlank))
    (h : item start = .ok ((), rest)) :
    (∃ value, closing (itemsStep item') read input = .ok (.again (value :: read), rest)) ∨
      ∃ fault ∈ unreadable, closing (itemsStep item') read input = .error fault := by
  rcases hitem start () rest h with ⟨value, hvalue, -⟩ | ⟨fault, hfault, hunreadable⟩
  · rw [← hblank] at hvalue
    exact .inl ⟨value, closing_again (itemsStep_again hnext hvalue)⟩
  · rw [← hblank] at hfault
    exact .inr ⟨fault, hunreadable, bind_error _ (itemsStep_error hnext hfault)⟩

include hbegins

theorem skipElement_followedBy (read : List α) :
    (skipElement item read.isEmpty).FollowedBy .unreadable
      (Together (fun first read => first = read.isEmpty) fun _ _ => True)
      (closing (itemsStep item') read) := by
  intro input turn rest h
  rcases skipElement_eq_ok hbegins h with ⟨start, hnext, hstart, rfl⟩ | ⟨hnext, rfl⟩
  · rcases itemsStep_of_passed hitem hblank hnext hstart with ⟨value, hvalue⟩ | ⟨fault, hfault, hstop⟩
    · exact .inl ⟨_, hvalue, .again rfl⟩
    · exact .inr ⟨fault, hstop, hfault⟩
  · exact .inl ⟨.done read.reverse, closing_done (itemsStep_done hnext), .done trivial⟩

end

/-! ## Objects that are passed over -/

/-- Passes over a member from its opening mark. -/
def skipBody (item : Reader Unit) : Reader Unit := do
  advance
  StringText.skip
  colon
  item

theorem skipMember_eq_ok {item : Reader Unit} {input rest : Bytes}
    (h : skipMember item input = .ok ((), rest)) :
    ∃ tail, input.dropWhile isBlank = 0x22 :: tail ∧ skipBody item (0x22 :: tail) = .ok ((), rest) := by
  cases hstripped : input.dropWhile isBlank with
  | nil =>
      rw [skipMember, bind_ok _ (peekToken_nil hstripped)] at h
      cases h
  | cons b tail =>
      rw [skipMember, bind_ok _ (peekToken_stripped hstripped)] at h
      by_cases hquote : b = 0x22
      · subst hquote
        exact ⟨tail, rfl, h⟩
      · have hchar : Char.ofNat b.toNat ≠ '"' := fun hc => hquote (byte_of_char hc)
        simp only [if_neg hchar] at h
        cases h

/-- A member that is passed over stands where an object has another one, and the end where it has
none. -/
theorem skipMembers_eq_ok {item : Reader Unit} {first : Bool} {input rest : Bytes}
    {turn : Turn Bool Unit} (h : skipMembers item first input = .ok (turn, rest)) :
    (∃ tail, anotherMember first input = .ok (true, 0x22 :: tail) ∧
      skipBody item (0x22 :: tail) = .ok ((), rest) ∧ turn = .again false) ∨
    (anotherMember first input = .ok (false, 0x7D :: rest) ∧ turn = .done ()) := by
  cases hstripped : input.dropWhile isBlank with
  | nil =>
      rw [skipMembers, bind_ok _ (peekToken_nil hstripped)] at h
      cases h
  | cons b tail =>
      have hpeek := peekToken_stripped hstripped
      have hsame : (b :: tail).dropWhile isBlank = b :: tail := by
        rw [← hstripped, List.dropWhile_idempotent]
      rw [skipMembers, bind_ok _ hpeek] at h
      rw [anotherMember, bind_ok _ hpeek]
      by_cases hclose : b = 0x7D
      · subst hclose
        cases h
        exact .inr ⟨rfl, rfl⟩
      have hchar : Char.ofNat b.toNat ≠ '\x7d' := fun hc => hclose (byte_of_char hc)
      cases first with
      | true =>
          have hmember : (skipMember item >>= fun _ => (return .again false : Reader (Turn Bool Unit)))
              (b :: tail) = .ok (turn, rest) := by
            generalize Char.ofNat b.toNat = c at h hchar
            simpa only [if_true] using h
          obtain ⟨_, middle, hskip, hturn⟩ := bind_eq_ok.mp hmember
          cases hturn
          obtain ⟨more, hmore, hbody⟩ := skipMember_eq_ok hskip
          rw [hsame] at hmore
          cases hmore
          exact .inl ⟨tail, rfl, hbody, rfl⟩
      | false =>
          by_cases hcomma : b = 0x2C
          · subst hcomma
            obtain ⟨_, middle, hadvance, hmember⟩ := bind_eq_ok.mp h
            cases hadvance
            obtain ⟨_, middle, hskip, hturn⟩ := bind_eq_ok.mp hmember
            cases hturn
            obtain ⟨more, hmore, hbody⟩ := skipMember_eq_ok hskip
            have hpeek' : peekToken tail = .ok (some '"', 0x22 :: more) := peekToken_stripped hmore
            refine .inl ⟨more, ?_, hbody, rfl⟩
            show (advance >>= _) (0x2C :: tail) = _
            rw [bind_ok _ (advance_cons _ _), bind_ok _ hpeek']
            rfl
          · have hchar' : Char.ofNat b.toNat ≠ ',' := fun hc => hcomma (byte_of_char hc)
            generalize Char.ofNat b.toNat = c at h hchar hchar'
            simp only [if_neg hchar', Bool.false_eq_true, if_false] at h
            cases h

theorem membersStep_of_next {σ : Type} (member : String → σ → Reader σ) {first : Bool} (state : σ)
    {input start : Bytes} (h : anotherMember first input = .ok (true, start)) :
    membersStep member (first, state) input =
      ((memberName >>= fun name => member name state) >>= fun after =>
        return .again (false, after)) start := by
  rw [membersStep, bind_ok _ h, if_pos rfl, bind_assoc]

section

variable {σ : Type} {item : Reader Unit} {member : String → σ → Reader σ}
  (hmember : ∀ name state, (colon >>= fun _ => item).FollowedBy .unreadable (fun _ _ => True)
    (member name state))
include hmember

theorem skipBody_followedBy (state : σ) : (skipBody item).FollowedBy .unreadable (fun _ _ => True)
    (memberName >>= fun name => member name state) := by
  rw [memberName, bind_assoc]
  refine followedBy_bind_left shortens_advance fun _ => ?_
  exact StringText.skip_followedBy.bind StringText.shortens_read fun _ name _ => hmember name state

theorem skipMembers_followedBy (state : Bool × σ) :
    (skipMembers item state.1).FollowedBy .unreadable
      (Together (fun first state => first = state.1) fun _ _ => True)
      (closing (membersStep member) state) := by
  obtain ⟨first, state⟩ := state
  intro input turn rest h
  rcases skipMembers_eq_ok h with ⟨tail, hnext, hbody, rfl⟩ | ⟨hnext, rfl⟩
  · rcases skipBody_followedBy hmember state _ () rest hbody with
      ⟨after, hafter, -⟩ | ⟨fault, hfault, hunreadable⟩
    · have hstep : membersStep member (first, state) input = .ok (.again (false, after), rest) := by
        rw [membersStep_of_next member state hnext, bind_ok _ hafter]
        rfl
      exact .inl ⟨_, closing_again hstep, .again rfl⟩
    · have hstep : membersStep member (first, state) input = .error fault := by
        rw [membersStep_of_next member state hnext, bind_error _ hfault]
      exact .inr ⟨fault, bind_error _ hstep, hunreadable⟩
  · have hdone : membersStep member (first, state) input = .ok (.done state, 0x7D :: rest) := by
      rw [membersStep, bind_ok _ hnext]
      rfl
    exact .inl ⟨.done state, closing_done hdone, .done trivial⟩

end

/-! ## Values of any kind -/

theorem shortens_addMember (depth : Nat) (name : String) (members : List (String × Json)) :
    (addMember depth name members).Shortens :=
  shortens_bind shortens_colon fun _ => shortens_bind (shortens_read depth) fun _ => shortens_pure _

theorem begins_skipFor (fuel : Nat) : Begins (skipFor fuel) := by
  intro input rest h
  cases fuel with
  | zero => cases h
  | succ fuel =>
      cases hstripped : input.dropWhile isBlank with
      | nil =>
          rw [skipFor, bind_ok _ (peekToken_nil hstripped)] at h
          cases h
      | cons b tail =>
          refine ⟨b, tail, rfl, ?_⟩
          rintro rfl
          rw [skipFor, bind_ok _ (peekToken_stripped hstripped)] at h
          cases h

/-- Passing over a value is a choice by the first byte too. -/
theorem skipFor_followedBy_anyValue {α : Type} {fuel : Nat} {make : Scalar → α} {list object : Reader α}
    (hlist : (advance >>= fun _ => loop (skipElement (skipFor fuel)) true).FollowedBy .unreadable
      (fun _ _ => True) list)
    (hobject : (advance >>= fun _ => loop (skipMembers (skipFor fuel)) true).FollowedBy .unreadable
      (fun _ _ => True) object) :
    (skipFor (fuel + 1)).FollowedBy .unreadable (fun _ _ => True)
      (anyValue (fun s => return make s) list object) := by
  have hscalar : ∀ {β γ : Type} {x : Reader Unit} {y : Reader β} (f : β → γ),
      x.FollowedBy .unreadable (fun _ _ => True) y →
      x.FollowedBy .unreadable (fun _ _ => True) (y >>= fun b => return f b) :=
    fun f h => h.map_right fun _ _ _ => trivial
  have hword : ∀ (cs : List Char) (a : α), (word cs).FollowedBy .unreadable (fun _ _ => True)
      (word cs >>= fun _ => return a) :=
    fun cs a => hscalar _ ((followedBy_refl (word cs)).mono fun _ _ _ => trivial)
  rw [skipFor, anyValue]
  refine followedBy_bind_left shortens_peekToken fun token => ?_
  cases token with
  | none => exact followedBy_fail _ _
  | some c =>
      by_cases hc : c = '['
      · subst hc
        exact hlist
      by_cases hc : c = '\x7b'
      · subst hc
        exact hobject
      by_cases hc : c = '"'
      · subst hc
        refine followedBy_bind_left shortens_advance fun _ => ?_
        exact hscalar (fun s => make (.str s)) StringText.skip_followedBy
      by_cases hc : c = 'n'
      · subst hc
        exact hword _ _
      by_cases hc : c = 't'
      · subst hc
        exact hword _ _
      by_cases hc : c = 'f'
      · subst hc
        exact hword _ _
      simp only
      by_cases hnumber : c = '-' ∨ ('0' ≤ c ∧ c ≤ '9')
      · rw [if_pos hnumber, if_pos hnumber]
        exact hscalar make NumberText.skip_followedBy
      · rw [if_neg hnumber]
        exact followedBy_fail _ _

theorem skipFor_followedBy (depth : Nat) : ∀ fuel,
    (skipFor fuel).FollowedBy .unreadable (fun _ _ => True) (read depth) := by
  -- by the brackets that may still be opened; where none may, one more is a fault of the kind
  induction depth with
  | zero =>
      intro fuel
      have htooDeep : ∀ x : Reader Unit,
          x.FollowedBy .unreadable (fun _ _ => True) (fail .tooDeep : Reader Json) :=
        fun x input a rest _ => .inr ⟨.tooDeep, rfl, by simp [FaultKind.unreadable, unreadable]⟩
      cases fuel with
      | zero => exact followedBy_fail _ _
      | succ fuel =>
          rw [read]
          exact skipFor_followedBy_anyValue (htooDeep _) (htooDeep _)
  | succ depth ih =>
      intro fuel
      cases fuel with
      | zero => exact followedBy_fail _ _
      | succ fuel =>
          rw [read]
          refine skipFor_followedBy_anyValue ?_ ?_
          · have hstep : ∀ (first : Bool) (taken : List Json), first = taken.isEmpty →
                (skipElement (skipFor fuel) first).FollowedBy .unreadable
                  (Together (fun first taken => first = taken.isEmpty) fun _ _ => True)
                  (closing (itemsStep (read depth)) taken) := by
              rintro _ taken rfl
              exact skipElement_followedBy (ih fuel) (begins_skipFor fuel) (read_dropWhile depth) taken
            have hitems : (advance >>= fun _ => loop (skipElement (skipFor fuel)) true).FollowedBy
                .unreadable (fun _ _ => True) (items (read depth)) := by
              rw [items_eq_closing]
              exact followedBy_bind_left shortens_advance fun _ => followedBy_loop hstep
                (shortens_closing (shortens_itemsStep (shortens_read depth))) rfl
            exact hitems.map_right fun _ _ _ => trivial
          · have hadd : ∀ name state, (colon >>= fun _ => skipFor fuel).FollowedBy .unreadable
                (fun _ _ => True) (addMember depth name state) := fun name state =>
              followedBy_bind_left shortens_colon fun _ => (ih fuel).map_right fun _ _ _ => trivial
            have hstep : ∀ (first : Bool) (state : Bool × List (String × Json)), first = state.1 →
                (skipMembers (skipFor fuel) first).FollowedBy .unreadable
                  (Together (fun first state => first = state.1) fun _ _ => True)
                  (closing (membersStep (addMember depth)) state) := by
              rintro _ state rfl
              exact skipMembers_followedBy hadd state
            have hmembers : (advance >>= fun _ => loop (skipMembers (skipFor fuel)) true).FollowedBy
                .unreadable (fun _ _ => True) (members (addMember depth) []) := by
              rw [members_eq_closing]
              exact followedBy_bind_left shortens_advance fun _ => followedBy_loop hstep
                (shortens_closing (shortens_membersStep (shortens_addMember depth))) rfl
            exact hmembers.map_right fun _ _ _ => trivial

/-- **Passed over or read.** Where a value can be passed over, it is read and takes the same bytes, or
the reader stops with one of a few faults. -/
theorem skip_followedBy (depth : Nat) :
    skip.FollowedBy .unreadable (fun _ _ => True) (read depth) := fun input =>
  skipFor_followedBy depth (input.length + 1) input

end Json

end RegionGateway
