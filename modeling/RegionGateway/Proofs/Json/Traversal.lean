import RegionGateway.Proofs.Json.CompactText
import RegionGateway.Proofs.Json.Strings

/-!
# Readers over texts

What the readers of values, arrays and objects do on the text of a value in a layout with blanks between
the tokens:

* `anyValue_blanks`: blanks are passed over before the choice by the first byte is made (`anyValue_str`,
  `anyValue_bool`, `anyValue_nat`, `anyValue_list`, `anyValue_object`);
* `items_laid`: an array is read item by item, if each item is;
* `members_laid`: an object is read member by member, if each member is (`ReadsLaidMembers`).

For compact texts these are `items_bytes` and `members_bytes`.
-/

namespace RegionGateway.Reader

variable {α σ : Type}

/-! ## The choice by the first byte -/

section

variable (scalar : Scalar → Reader α) (list object : Reader α)

theorem anyValue_list (rest : Bytes) :
    anyValue scalar list object (0x5B :: rest) = list (0x5B :: rest) := rfl

theorem anyValue_object (rest : Bytes) :
    anyValue scalar list object (0x7B :: rest) = object (0x7B :: rest) := rfl

theorem anyValue_blanks {blanks : Bytes} (h : ∀ b ∈ blanks, isBlank b = true) (input : Bytes) :
    anyValue scalar list object (blanks ++ input) = anyValue scalar list object input :=
  bind_congr _ (peekToken_blanks h input)

theorem anyValue_str (s : String) (rest : Bytes) :
    anyValue scalar list object (Json.bytes (.str s) ++ rest) = scalar (.str s) rest := by
  rw [Json.bytes_str_append, anyValue, bind_ok _ (peekToken_cons '"' _ (by decide) (by decide))]
  show (StringText.read >>= fun s => scalar (.str s)) (Utf8.encode _ ++ 0x22 :: rest) = _
  rw [bind_ok _ (StringText.read_quoted s rest)]

theorem anyValue_bool (layout : Json.Layout) (depth : Nat) (b : Bool) (rest : Bytes) :
    anyValue scalar list object (Json.laid layout depth (.bool b) ++ rest) = scalar (.bool b) rest := by
  rw [Json.laid_bool]
  cases b <;> rfl

theorem anyValue_nat {n : Nat} (h : n ≤ NumberText.greatest) (layout : Json.Layout) (depth : Nat)
    {rest : Bytes} (hrest : Delimited rest) :
    anyValue scalar list object (Json.laid layout depth (.int n) ++ rest) = scalar (.int n) rest := by
  rw [Json.laid_nat]
  obtain ⟨c, hdigit, hhead⟩ := NumberText.decimal_head n
  obtain ⟨input, hinput⟩ := hhead rest
  have hvalue := NumberText.toNat_of_isDigit hdigit
  have hdigits : ∀ k < 0x3A, 0x30 ≤ k →
      isBlank k.toUInt8 = false ∧ Char.ofNat k ∉ ['[', '\x7b', '"', 'n', 't', 'f'] := by decide
  obtain ⟨hblank, hmarks⟩ := hdigits c.toNat (Nat.lt_succ_of_le hvalue.2) hvalue.1
  rw [Char.ofNat_toNat] at hmarks
  simp only [List.mem_cons, List.not_mem_nil, or_false, not_or] at hmarks
  have hpeek := peekToken_cons c input hblank (NumberText.ofNat_digit hdigit)
  rw [anyValue, hinput, bind_ok _ hpeek, ← hinput]
  obtain ⟨hlist, hobject, hquote, hnull, htrue, hfalse⟩ := hmarks
  simp only
  rw [if_pos (.inr hvalue), bind_ok _ (NumberText.readValue_decimal h hrest)]

end

/-! ## Arrays -/

section

variable {blanks : Bytes} (hblanks : ∀ b ∈ blanks, isBlank b = true)
include hblanks

theorem anotherElement_first {b : UInt8} (rest : Bytes) (hblank : isBlank b = false)
    (hclose : Char.ofNat b.toNat ≠ ']') :
    anotherElement true (blanks ++ b :: rest) = .ok (true, b :: rest) := by
  rw [anotherElement, bind_congr _ (peekToken_blanks hblanks _),
    bind_ok _ (peekToken_cons _ rest hblank rfl)]
  generalize Char.ofNat b.toNat = c at hclose ⊢
  simp only [if_true]
  rfl

theorem anotherElement_comma {b : UInt8} (rest : Bytes) (hblank : isBlank b = false)
    (hclose : Char.ofNat b.toNat ≠ ']') :
    anotherElement false (0x2C :: (blanks ++ b :: rest)) = .ok (true, b :: rest) := by
  rw [anotherElement, bind_ok _ (peekToken_cons ',' _ (by decide) (by decide))]
  simp only [Bool.false_eq_true, if_false, if_true, Char.reduceEq, imp_self]
  rw [bind_ok _ (advance_cons 0x2C (blanks ++ b :: rest)), bind_congr _ (peekToken_blanks hblanks _),
    bind_ok _ (peekToken_cons _ rest hblank rfl)]
  generalize Char.ofNat b.toNat = c at hclose ⊢
  simp only
  rfl

end

/-- One step over the items of an array. -/
def itemsStep (item : Reader α) (read : List α) : Reader (Turn (List α) (List α)) := do
  if ← anotherElement read.isEmpty then return .again ((← item) :: read)
  else return .done read.reverse

theorem items_eq (item : Reader α) : items item = (do
    advance
    let read ← loop (itemsStep item) []
    advance
    return read) := rfl

section

variable {item : Reader α} {read : List α} {input start rest : Bytes}

/-- Where an array has another item, a step reads it. -/
theorem itemsStep_again {value : α} (hanother : anotherElement read.isEmpty input = .ok (true, start))
    (hitem : item start = .ok (value, rest)) :
    itemsStep item read input = .ok (.again (value :: read), rest) := by
  rw [itemsStep, bind_ok _ hanother]
  exact bind_ok _ hitem

theorem itemsStep_error {fault : Fault} (hanother : anotherElement read.isEmpty input = .ok (true, start))
    (hitem : item start = .error fault) : itemsStep item read input = .error fault := by
  rw [itemsStep, bind_ok _ hanother]
  exact bind_error _ hitem

/-- Where an array has no other item, a step is the last one. -/
theorem itemsStep_done (hanother : anotherElement read.isEmpty input = .ok (false, rest)) :
    itemsStep item read input = .ok (.done read.reverse, rest) :=
  bind_ok _ hanother

end

theorem itemsStep_close (item : Reader α) (read : List α) {blanks : Bytes}
    (h : ∀ b ∈ blanks, isBlank b = true) (rest : Bytes) :
    itemsStep item read (blanks ++ 0x5D :: rest) = .ok (.done read.reverse, 0x5D :: rest) := by
  have hclose : anotherElement read.isEmpty (blanks ++ 0x5D :: rest) = .ok (false, 0x5D :: rest) :=
    bind_congr _ (peekToken_blanks h _)
  exact itemsStep_done hclose

section

open Json (laid laidItem laidMember)

variable {layout : Json.Layout} (hlayout : layout.Blank) {depth : Nat}
include hlayout

/-- The first item follows the bracket, every other one a comma. -/
theorem itemsStep_item {item : Reader α} {json : Json} {value : α} {rest : Bytes}
    (hitem : item (laid layout depth json ++ rest) = .ok (value, rest)) (read : List α) :
    itemsStep item read ((if read = [] then [] else [0x2C]) ++ (laidItem layout depth json ++ rest)) =
      .ok (.again (value :: read), rest) := by
  obtain ⟨b, tail, hbytes, hblank, hclose⟩ := Json.laid_head layout depth json
  rw [laidItem, List.append_assoc]
  rw [hbytes] at hitem ⊢
  cases read with
  | nil =>
      rw [if_pos rfl, List.nil_append, List.cons_append]
      exact itemsStep_again (anotherElement_first (hlayout.gap depth) _ hblank hclose) hitem
  | cons last read =>
      rw [if_neg (List.cons_ne_nil last read), List.cons_append, List.cons_append, List.nil_append]
      exact itemsStep_again (anotherElement_comma (hlayout.gap depth) _ hblank hclose) hitem

/-- The items behind the first and the closing bracket. -/
theorem runs_items {item : Reader α} {write : α → Json} {values : List α}
    (hitem : ∀ value ∈ values, ∀ rest, Delimited rest →
      item (laid layout (depth + 1) (write value) ++ rest) = .ok (value, rest))
    {read : List α} (hread : read ≠ []) (rest : Bytes) :
    Runs (itemsStep item) read
      ((values.flatMap fun value => 0x2C :: laidItem layout (depth + 1) (write value)) ++
        (layout.gapBytes depth ++ 0x5D :: rest))
      (.ok (read.reverse ++ values, 0x5D :: rest)) := by
  induction values generalizing read with
  | nil =>
      rw [List.append_nil]
      exact .done (itemsStep_close item read (hlayout.gap depth) rest)
  | cons value values ih =>
      have hrest := (Delimited.blanks (hlayout.gap depth) (.bracket rest)).separated
        (fun value => laidItem layout (depth + 1) (write value)) values
      have hstep := itemsStep_item hlayout (hitem value List.mem_cons_self _ hrest) read
      rw [if_neg hread, List.cons_append, List.nil_append] at hstep
      have hruns := ih (fun v hv => hitem v (List.mem_cons_of_mem _ hv)) (List.cons_ne_nil value read)
      rw [List.reverse_cons, List.append_assoc] at hruns
      rw [List.flatMap_cons, List.cons_append, List.cons_append, List.append_assoc]
      refine .again hstep ?_ hruns
      simp only [List.length_cons, List.length_append]
      omega

/-- An array is read item by item. -/
theorem items_laid {item : Reader α} {write : α → Json} {values : List α}
    (hitem : ∀ value ∈ values, ∀ rest, Delimited rest →
      item (laid layout (depth + 1) (write value) ++ rest) = .ok (value, rest)) (rest : Bytes) :
    items item (laid layout depth (.arr (values.map write)) ++ rest) = .ok (values, rest) := by
  have hloop : ∃ input, laid layout depth (.arr (values.map write)) ++ rest = 0x5B :: input ∧
      Runs (itemsStep item) [] input (.ok (values, 0x5D :: rest)) := by
    cases values with
    | nil =>
        rw [List.map_nil, Json.laid_arr_nil]
        exact ⟨_, rfl, .done (itemsStep_close item [] (List.forall_mem_nil _) rest)⟩
    | cons value values =>
        -- the first item has no comma before it, so it stands outside the induction
        rw [List.map_cons, Json.laid_arr_cons, List.flatMap_map, List.cons_append, List.append_assoc,
          List.append_assoc, List.append_assoc]
        have hruns := runs_items hlayout (fun v hv => hitem v (List.mem_cons_of_mem _ hv))
          (List.cons_ne_nil value []) rest
        have hrest := (Delimited.blanks (hlayout.gap depth) (.bracket rest)).separated
          (fun value => laidItem layout (depth + 1) (write value)) values
        have hpos := Json.length_laid_pos layout (depth + 1) (write value)
        refine ⟨_, rfl, .again (itemsStep_item hlayout (hitem value List.mem_cons_self _ hrest) []) ?_
          hruns⟩
        simp only [List.length_cons, List.length_append, laidItem]
        omega
  obtain ⟨input, hinput, hruns⟩ := hloop
  rw [items_eq, hinput, bind_ok _ (advance_cons _ _), bind_ok _ (loop_eq_of_runs hruns),
    bind_ok _ (advance_cons _ _)]
  rfl

end

/-- An array in a compact text is read item by item. -/
theorem items_bytes {item : Reader α} {write : α → Json} {values : List α}
    (hitem : ∀ value ∈ values, ∀ rest, Delimited rest →
      item ((write value).bytes ++ rest) = .ok (value, rest)) (rest : Bytes) :
    items item ((Json.arr (values.map write)).bytes ++ rest) = .ok (values, rest) := by
  rw [← Json.laid_compact 0]
  exact items_laid Json.Layout.blank_compact (by simpa only [Json.laid_compact] using hitem) rest

/-! ## Objects -/

theorem anotherMember_first {blanks : Bytes} (h : ∀ b ∈ blanks, isBlank b = true) (rest : Bytes) :
    anotherMember true (blanks ++ 0x22 :: rest) = .ok (true, 0x22 :: rest) :=
  bind_congr _ (peekToken_blanks h _)

theorem anotherMember_comma {blanks : Bytes} (h : ∀ b ∈ blanks, isBlank b = true) (rest : Bytes) :
    anotherMember false (0x2C :: (blanks ++ 0x22 :: rest)) = .ok (true, 0x22 :: rest) := by
  rw [anotherMember, bind_ok _ (peekToken_cons ',' _ (by decide) (by decide))]
  simp only [Bool.false_eq_true, if_false, if_true, Char.reduceEq, imp_self]
  rw [bind_ok _ (advance_cons 0x2C (blanks ++ 0x22 :: rest)), bind_congr _ (peekToken_blanks h _)]
  rfl

theorem memberName_bytes (name : String) (rest : Bytes) :
    memberName (Json.bytes (.str name) ++ rest) = .ok (name, rest) := by
  rw [Json.bytes_str_append, memberName, bind_ok _ (advance_cons _ _), StringText.read_quoted]

theorem colon_cons (rest : Bytes) : colon (0x3A :: rest) = .ok ((), rest) := rfl

/-- One step over the members of an object; the state says whether no member has been read. -/
def membersStep (member : String → σ → Reader σ) (state : Bool × σ) :
    Reader (Turn (Bool × σ) σ) := do
  if ← anotherMember state.1 then
    let name ← memberName
    return .again (false, ← member name state.2)
  else return .done state.2

theorem members_eq (member : String → σ → Reader σ) (start : σ) : members member start = (do
    advance
    let state ← loop (membersStep member) (true, start)
    advance
    return state) := rfl

/-- The members of an object are read one after the other, each after its name, from a state to a
state. -/
def ReadsMembers (member : String → σ → Reader σ) : List (String × Json) → σ → σ → Prop
  | [], start, final => final = start
  | (name, json) :: rest, start, final => ∃ middle,
      (∀ more, Delimited more →
        member name start (0x3A :: (json.bytes ++ more)) = .ok (middle, more)) ∧
      ReadsMembers member rest middle final

/-- The same in a layout, at a nesting depth. -/
def ReadsLaidMembers (layout : Json.Layout) (depth : Nat) (member : String → σ → Reader σ) :
    List (String × Json) → σ → σ → Prop
  | [], start, final => final = start
  | (name, json) :: rest, start, final => ∃ middle,
      (∀ more, Delimited more → member name start
        (layout.colonBytes ++ (Json.laid layout depth json ++ more)) = .ok (middle, more)) ∧
      ReadsLaidMembers layout depth member rest middle final

theorem readsLaidMembers_compact {member : String → σ → Reader σ} {depth : Nat}
    {list : List (String × Json)} {start final : σ} :
    ReadsLaidMembers .compact depth member list start final ↔ ReadsMembers member list start final := by
  induction list generalizing start with
  | nil => exact Iff.rfl
  | cons m list ih =>
      obtain ⟨name, json⟩ := m
      refine exists_congr fun middle => and_congr ?_ ih
      rw [Json.laid_compact, Json.colonBytes_compact]
      exact Iff.rfl

theorem membersStep_close (member : String → σ → Reader σ) (state : Bool × σ) {blanks : Bytes}
    (h : ∀ b ∈ blanks, isBlank b = true) (rest : Bytes) :
    membersStep member state (blanks ++ 0x7D :: rest) = .ok (.done state.2, 0x7D :: rest) := by
  have hclose : anotherMember state.1 (blanks ++ 0x7D :: rest) = .ok (false, 0x7D :: rest) :=
    bind_congr _ (peekToken_blanks h _)
  exact bind_ok _ hclose

section

open Json (laid laidItem laidMember)

variable {layout : Json.Layout} (hlayout : layout.Blank) {depth : Nat}
include hlayout

/-- The first member follows the bracket, every other one a comma. -/
theorem membersStep_member {member : String → σ → Reader σ} {name : String} {json : Json}
    {start middle : σ} {rest : Bytes}
    (hmember : member name start (layout.colonBytes ++ (laid layout depth json ++ rest)) =
      .ok (middle, rest)) (first : Bool) :
    membersStep member (first, start)
      ((if first then [] else [0x2C]) ++ (laidMember layout depth (name, json) ++ rest)) =
      .ok (.again (false, middle), rest) := by
  have hname := memberName_bytes name (layout.colonBytes ++ (laid layout depth json ++ rest))
  have hanother : anotherMember first ((if first then [] else [0x2C]) ++
      (laidMember layout depth (name, json) ++ rest)) =
      .ok (true, Json.bytes (.str name) ++ (layout.colonBytes ++ (laid layout depth json ++ rest))) := by
    rw [laidMember, Json.laid_str_eq, List.append_assoc, List.append_assoc, List.append_assoc,
      Json.bytes_str_append]
    cases first with
    | true => exact anotherMember_first (hlayout.gap depth) _
    | false => exact anotherMember_comma (hlayout.gap depth) _
  rw [membersStep, bind_ok _ hanother, if_pos rfl, bind_ok _ hname]
  exact bind_ok _ hmember

/-- The members behind the first and the closing bracket. -/
theorem runs_members {member : String → σ → Reader σ} {list : List (String × Json)} {start final : σ}
    (h : ReadsLaidMembers layout (depth + 1) member list start final) (rest : Bytes) :
    Runs (membersStep member) (false, start)
      ((list.flatMap fun m => 0x2C :: laidMember layout (depth + 1) m) ++
        (layout.gapBytes depth ++ 0x7D :: rest))
      (.ok (final, 0x7D :: rest)) := by
  induction list generalizing start with
  | nil =>
      rw [h]
      exact .done (membersStep_close member (false, start) (hlayout.gap depth) rest)
  | cons m list ih =>
      obtain ⟨name, json⟩ := m
      obtain ⟨middle, hmember, hlist⟩ := h
      have hrest := (Delimited.blanks (hlayout.gap depth) (.brace rest)).separated
        (laidMember layout (depth + 1)) list
      have hstep := membersStep_member hlayout (hmember _ hrest) false
      rw [if_neg (by decide), List.cons_append, List.nil_append] at hstep
      rw [List.flatMap_cons, List.cons_append, List.cons_append, List.append_assoc]
      refine .again hstep ?_ (ih hlist)
      simp only [List.length_cons, List.length_append]
      omega

/-- An object is read member by member. -/
theorem members_laid {member : String → σ → Reader σ} {list : List (String × Json)}
    {start final : σ} (h : ReadsLaidMembers layout (depth + 1) member list start final) (rest : Bytes) :
    members member start (laid layout depth (.obj list) ++ rest) = .ok (final, rest) := by
  have hloop : ∃ input, laid layout depth (.obj list) ++ rest = 0x7B :: input ∧
      Runs (membersStep member) (true, start) input (.ok (final, 0x7D :: rest)) := by
    cases list with
    | nil =>
        rw [h, Json.laid_obj_nil]
        exact ⟨_, rfl, .done (membersStep_close member (true, start) (List.forall_mem_nil _) rest)⟩
    | cons m list =>
        obtain ⟨name, json⟩ := m
        obtain ⟨middle, hmember, hlist⟩ := h
        rw [Json.laid_obj_cons, List.cons_append, List.append_assoc, List.append_assoc,
          List.append_assoc]
        have hrest := (Delimited.blanks (hlayout.gap depth) (.brace rest)).separated
          (laidMember layout (depth + 1)) list
        have hstep := membersStep_member hlayout (hmember _ hrest) true
        rw [if_pos rfl, List.nil_append] at hstep
        have hpos := Json.length_laid_pos layout (depth + 1) json
        refine ⟨_, rfl, .again hstep ?_ (runs_members hlayout hlist rest)⟩
        simp only [List.length_cons, List.length_append, laidMember]
        omega
  obtain ⟨input, hinput, hruns⟩ := hloop
  rw [members_eq, hinput, bind_ok _ (advance_cons _ _), bind_ok _ (loop_eq_of_runs hruns),
    bind_ok _ (advance_cons _ _)]
  rfl

end

/-- An object in a compact text is read member by member. -/
theorem members_bytes {member : String → σ → Reader σ} {list : List (String × Json)}
    {start final : σ} (h : ReadsMembers member list start final) (rest : Bytes) :
    members member start ((Json.obj list).bytes ++ rest) = .ok (final, rest) := by
  rw [← Json.laid_compact 0]
  exact members_laid Json.Layout.blank_compact (readsLaidMembers_compact.mpr h) rest

/-- An object is read no further than a first member that stops with a fault. -/
theorem members_stop {member : String → σ → Reader σ} {name : String} {json : Json} {start : σ}
    (h : ∀ more, Delimited more → ∃ fault,
      member name start (0x3A :: (json.bytes ++ more)) = .error fault)
    (list : List (String × Json)) (rest : Bytes) :
    ∃ fault, members member start ((Json.obj ((name, json) :: list)).bytes ++ rest) =
      .error fault := by
  have hrest := (Delimited.brace rest).separated Json.memberBytes list
  -- how the rest begins does not matter, only that it ends the member
  obtain ⟨fault, hmember⟩ := h _ hrest
  have hname := memberName_bytes name (0x3A :: (json.bytes ++
    ((list.flatMap fun m => 0x2C :: Json.memberBytes m) ++ 0x7D :: rest)))
  have hstep : membersStep member (true, start) (Json.memberBytes (name, json) ++
      ((list.flatMap fun m => 0x2C :: Json.memberBytes m) ++ 0x7D :: rest)) = .error fault := by
    have hanother : ∀ input, anotherMember true (Json.bytes (.str name) ++ input) =
        .ok (true, Json.bytes (.str name) ++ input) := by
      intro input
      rw [Json.bytes_str]
      exact anotherMember_first (List.forall_mem_nil _) _
    rw [membersStep, Json.memberBytes, List.append_assoc, List.cons_append, bind_ok _ (hanother _),
      if_pos rfl, bind_ok _ hname]
    exact bind_error _ hmember
  refine ⟨fault, ?_⟩
  rw [members_eq, Json.bytes_obj_cons, List.cons_append, List.append_assoc, List.append_assoc,
    bind_ok _ (advance_cons _ _)]
  exact bind_error _ (loop_eq_of_runs (.stop hstep))

/-! ## Values nobody asked for -/

/-- A string that nobody asked for is passed over. -/
theorem skip_str (s : String) (rest : Bytes) :
    Json.skip (Json.bytes (.str s) ++ rest) = .ok ((), rest) := by
  rw [Json.bytes_str_append]
  unfold Json.skip Json.skipFor
  rw [bind_ok _ (peekToken_cons '"' _ (by decide) (by decide))]
  exact StringText.skip_quoted s rest

end RegionGateway.Reader
