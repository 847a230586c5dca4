import RegionGateway.Proofs.Json.ReadBack
import RegionGateway.Proofs.Json.Suffix

/-!
# The order in which a text is written

A value that is read has the members of its objects sorted by name, each name once, so it does not show in
which order they stand in the text. `Json.readWritten` reads a value with all members in the order of the
text, and reading a value is reading it so and sorting it (`parse_eq`). Both readers make the same steps on
the same input: a reader of arrays, objects or values turns what it gives into something else, if its parts
do (`Reader.items_map`, `Reader.members_map`, `Reader.anyValue_map`).
-/

namespace RegionGateway

/-! ## Readers that give something else -/

/-- A decision with its state and its result turned into others. -/
def Turn.map {σ τ α β : Type} (f : σ → τ) (g : α → β) : Turn σ α → Turn τ β
  | .again state => .again (f state)
  | .done result => .done (g result)

namespace Reader

variable {α β σ τ : Type}

theorem loop_map {f : σ → τ} {g : α → β} {step : σ → Reader (Turn σ α)} {step' : τ → Reader (Turn τ β)}
    (h : ∀ state, step' (f state) = Turn.map f g <$> step state) (state : σ) :
    loop step' (f state) = g <$> loop step state := by
  have hfor : ∀ bound state, loopFor step' bound (f state) = g <$> loopFor step bound state := by
    intro bound
    induction bound with
    | zero => exact fun _ => rfl
    | succ bound ih =>
        intro state
        rw [loopFor, loopFor, h, map_bind, bind_map_left]
        refine congrArg (step state >>= ·) (funext fun turn => ?_)
        cases turn with
        | again after => exact ih after
        | done result => exact (map_pure g result).symm
  exact funext fun input => congrFun (hfor (input.length + 1) state) input

theorem itemsStep_map (f : α → β) (item : Reader α) (read : List α) :
    itemsStep (f <$> item) (read.map f) = Turn.map (List.map f) (List.map f) <$> itemsStep item read := by
  have hempty : (read.map f).isEmpty = read.isEmpty := List.isEmpty_map
  rw [itemsStep, itemsStep, hempty, map_bind]
  refine congrArg (anotherElement read.isEmpty >>= ·) (funext fun another => ?_)
  cases another with
  | true => simp only [if_true, map_bind, bind_map_left, map_pure, Turn.map, List.map_cons]
  | false => simp only [Bool.false_eq_true, if_false, map_pure, Turn.map, List.map_reverse]

theorem items_map (f : α → β) (item : Reader α) : items (f <$> item) = List.map f <$> items item := by
  have hloop : loop (itemsStep (f <$> item)) [] = List.map f <$> loop (itemsStep item) [] :=
    loop_map (fun read => itemsStep_map f item read) []
  simp only [items_eq, hloop, map_bind, bind_map_left, map_pure]

theorem membersStep_map {f : σ → τ} {member : String → σ → Reader σ} {member' : String → τ → Reader τ}
    (h : ∀ name state, member' name (f state) = f <$> member name state) (state : Bool × σ) :
    membersStep member' (Prod.map id f state) =
      Turn.map (Prod.map id f) f <$> membersStep member state := by
  obtain ⟨first, state⟩ := state
  rw [membersStep, membersStep, map_bind]
  refine congrArg (anotherMember first >>= ·) (funext fun another => ?_)
  cases another with
  | true => simp only [if_true, Prod.map, h, map_bind, bind_map_left, map_pure, Turn.map, id]
  | false => simp only [Bool.false_eq_true, if_false, Prod.map, map_pure, Turn.map]

theorem members_map {f : σ → τ} {member : String → σ → Reader σ} {member' : String → τ → Reader τ}
    (h : ∀ name state, member' name (f state) = f <$> member name state) (start : σ) :
    members member' (f start) = f <$> members member start := by
  have hloop : loop (membersStep member') (true, f start) =
      f <$> loop (membersStep member) (true, start) :=
    loop_map (membersStep_map h) (true, start)
  simp only [members_eq, hloop, map_bind, bind_map_left, map_pure]

theorem map_congr {x y : Reader α} {input other : Bytes} (f : α → β) (h : x input = y other) :
    (f <$> x) input = (f <$> y) other := by
  show Except.bind (x input) _ = Except.bind (y other) _
  rw [h]

theorem anyValue_map (f : α → β) (scalar : Scalar → Reader α) (list object : Reader α) :
    anyValue (fun s => f <$> scalar s) (f <$> list) (f <$> object) = f <$> anyValue scalar list object := by
  funext input
  cases anyValue_choice input with
  | fault fault happly => rw [happly, map_error f (happly scalar list object)]
  | scalar value rest _ _ happly => rw [happly, map_congr f (happly scalar list object)]
  | list tail _ happly => rw [happly, map_congr f (happly scalar list object)]
  | object tail _ happly => rw [happly, map_congr f (happly scalar list object)]

theorem whole_map (f : α → β) (reader : Reader α) (text : Bytes) :
    whole (f <$> reader) text = f <$> whole reader text := by
  unfold whole
  cases hread : reader text with
  | error fault => rw [map_error f hread]; rfl
  | ok result =>
      obtain ⟨value, rest⟩ := result
      rw [map_ok f hread]
      dsimp only
      split <;> rfl

end Reader

/-- Reads a member into the members of an object. -/
def addMember (depth : Nat) (name : String) (members : List (String × Json)) :
    Reader (List (String × Json)) := do
  Reader.colon
  return Json.insertMember name (← Json.read depth) members

namespace Json

/-! ## Values as they are written -/

/-- Reads the rest of a member behind the members of an object. -/
def appendMember (value : Reader Json) (name : String) (members : List (String × Json)) :
    Reader (List (String × Json)) := do
  Reader.colon
  return members ++ [(name, ← value)]

/-- Reads a value with all members of its objects in the order of the text. -/
def readWritten : Nat → Reader Json
  | 0 => Reader.anyValue (fun s => return ofScalar s) (Reader.fail .tooDeep) (Reader.fail .tooDeep)
  | depth + 1 =>
    Reader.anyValue (fun s => return ofScalar s)
      (do return .arr (← Reader.items (readWritten depth)))
      (do return .obj (← Reader.members (appendMember (readWritten depth)) []))

/-- The value of a whole text, with all members in the order of the text. -/
def parseWritten (text : Bytes) : Except Fault Json := Reader.whole (readWritten maxDepth) text

mutual
/-- A value with the members of all its objects sorted by name; the last one of a name counts. -/
def sorted : Json → Json
  | .arr items => .arr (sortedItems items)
  | .obj members => .obj (sortedInto [] members)
  | .null => .null
  | .bool b => .bool b
  | .int i => .int i
  | .float x => .float x
  | .str s => .str s

def sortedItems : List Json → List Json
  | [] => []
  | item :: items => sorted item :: sortedItems items

/-- Sorted members with more members sorted in. -/
def sortedInto (members : List (String × Json)) : List (String × Json) → List (String × Json)
  | [] => members
  | (name, value) :: rest => sortedInto (insertMember name (sorted value) members) rest
end

theorem sorted_ofScalar (s : Scalar) : sorted (ofScalar s) = ofScalar s := by
  cases s <;> simp only [ofScalar, sorted]

theorem sortedItems_eq_map (items : List Json) : sortedItems items = items.map sorted := by
  induction items with
  | nil => rw [sortedItems, List.map_nil]
  | cons item items ih => rw [sortedItems, ih, List.map_cons]

theorem sortedInto_append (members more rest : List (String × Json)) :
    sortedInto members (more ++ rest) = sortedInto (sortedInto members more) rest := by
  induction more generalizing members with
  | nil => rw [List.nil_append, sortedInto]
  | cons member more ih =>
      obtain ⟨name, value⟩ := member
      rw [List.cons_append, sortedInto, ih, sortedInto]

/-- A value is read by reading it as it is written and sorting it. -/
theorem read_eq (depth : Nat) : read depth = sorted <$> readWritten depth := by
  induction depth with
  | zero =>
      rw [read, readWritten, ← Reader.anyValue_map]
      simp only [map_pure, sorted_ofScalar]
      rfl
  | succ depth ih =>
      have hadd : ∀ name members, addMember depth name (sortedInto [] members) =
          sortedInto [] <$> appendMember (readWritten depth) name members := by
        intro name members
        simp only [addMember, appendMember, ih, map_bind, bind_map_left, map_pure, sortedInto_append,
          sortedInto]
      have hmembers : Reader.members (addMember depth) [] =
          sortedInto [] <$> Reader.members (appendMember (readWritten depth)) [] := by
        rw [← Reader.members_map hadd, sortedInto]
      have hobject : Json.obj <$> Reader.members (addMember depth) [] =
          sorted <$> Json.obj <$> Reader.members (appendMember (readWritten depth)) [] := by
        simp only [hmembers, Functor.map_map, sorted]
      have hlist : Json.arr <$> Reader.items (read depth) =
          sorted <$> Json.arr <$> Reader.items (readWritten depth) := by
        simp only [ih, Reader.items_map, Functor.map_map, sorted, sortedItems_eq_map]
      have hscalar : (fun s => pure (ofScalar s) : Scalar → Reader Json) =
          fun s => sorted <$> pure (ofScalar s) := by
        simp only [map_pure, sorted_ofScalar]
      rw [readWritten, ← Reader.anyValue_map]
      show Reader.anyValue (fun s => pure (ofScalar s)) (Json.arr <$> Reader.items (read depth))
        (Json.obj <$> Reader.members (addMember depth) []) = _
      rw [hlist, hobject, hscalar]
      rfl

theorem parse_eq (text : Bytes) : parse text = sorted <$> parseWritten text := by
  rw [parse, parseWritten, read_eq, Reader.whole_map]

/-! ## Texts of values -/

/-- Reads a value as it is written. -/
def written : Codec Json := ⟨readWritten, id⟩

/-- Values made of strings, natural numbers, arrays and objects, with members in any order, in which at most
so many brackets are opened. -/
inductive Nested : Nat → Json → Prop
  | str {depth s} : Nested depth (.str s)
  | nat {depth n} (hrange : n ≤ NumberText.greatest) : Nested depth (.int n)
  | arr {depth items} (hitems : ∀ item ∈ items, Nested depth item) : Nested (depth + 1) (.arr items)
  | obj {depth members} (hvalues : ∀ m ∈ members, Nested depth m.2) : Nested (depth + 1) (.obj members)

theorem readWritten_eq_anyValue (depth : Nat) : ∃ list object,
    readWritten depth = Reader.anyValue (fun s => return ofScalar s) list object := by
  cases depth with
  | zero => exact ⟨_, _, by rw [readWritten]⟩
  | succ depth => exact ⟨_, _, by rw [readWritten]⟩

theorem readsMembers_appended {depth : Nat} {list : List (String × Json)}
    (hreads : ∀ m ∈ list, written.Reads depth m.2 m.2) (seen : List (String × Json)) :
    Reader.ReadsMembers (appendMember (readWritten depth)) list seen (seen ++ list) := by
  induction list generalizing seen with
  | nil => exact List.append_nil seen
  | cons m list ih =>
      obtain ⟨name, value⟩ := m
      have hrest := ih (fun m hm => hreads m (List.mem_cons_of_mem _ hm)) (seen ++ [(name, value)])
      rw [List.append_assoc, List.cons_append, List.nil_append] at hrest
      refine ⟨seen ++ [(name, value)], fun more hmore => ?_, hrest⟩
      have hvalue : readWritten depth (value.bytes ++ more) = .ok (value, more) :=
        hreads (name, value) List.mem_cons_self more hmore
      rw [appendMember, Reader.bind_ok _ (Reader.colon_cons _), Reader.bind_ok _ hvalue]
      rfl

/-- From the text of a value, the value is read with its members in their order. -/
theorem written_reads {depth : Nat} {value : Json} (h : Nested depth value) :
    written.Reads depth value value := by
  induction h with
  | @str depth s =>
      intro rest _
      obtain ⟨list, object, hread⟩ := readWritten_eq_anyValue depth
      dsimp only [written]
      rw [hread, Reader.anyValue_str]
      rfl
  | @nat depth n hrange =>
      intro rest hrest
      obtain ⟨list, object, hread⟩ := readWritten_eq_anyValue depth
      dsimp only [written]
      rw [hread, ← laid_compact 0, Reader.anyValue_nat _ _ _ hrange .compact 0 hrest]
      rfl
  | @arr depth items _ ih =>
      intro rest _
      have hitems : Reader.items (readWritten depth) ((arr (items.map id)).bytes ++ rest) =
          .ok (items, rest) := Reader.items_bytes ih rest
      rw [List.map_id] at hitems
      obtain ⟨tail, htail⟩ := bytes_arr items
      dsimp only [written]
      rw [htail, List.cons_append] at hitems ⊢
      rw [readWritten, Reader.anyValue_list]
      exact Reader.map_ok Json.arr hitems
  | @obj depth members _ ih =>
      intro rest _
      have hmembers := Reader.members_bytes (readsMembers_appended ih []) rest
      obtain ⟨tail, htail⟩ := bytes_obj members
      dsimp only [written]
      rw [htail, List.cons_append] at hmembers ⊢
      rw [readWritten, Reader.anyValue_object]
      exact Reader.map_ok Json.obj hmembers

theorem parseWritten_bytes {value : Json} (h : Nested maxDepth value) :
    parseWritten value.bytes = .ok value := (written_reads h).decode

/-- The text of a value is read as the value with its members sorted. -/
theorem parse_bytes {value : Json} (h : Nested maxDepth value) : parse value.bytes = .ok value.sorted := by
  rw [parse_eq, parseWritten_bytes h]
  rfl

end Json

end RegionGateway
