import RegionGateway.Proofs.Json.WrittenOrder

/-!
# Values of any kind are read back

Where a value is asked for and no record, it is read with its members sorted by name. So what is read
back from the text of a value is that value, if its members are sorted already (`any_reads`): sorting
adds every member behind the ones it has (`insertMember_last`).
-/

namespace RegionGateway

/-- An object is read by its members. -/
theorem read_object (depth : Nat) (rest : Bytes) :
    Json.read (depth + 1) (0x7B :: rest) =
      (Json.obj <$> Reader.members (addMember depth) []) (0x7B :: rest) := by
  rw [Json.read]
  exact Reader.anyValue_object _ _ _ rest

namespace Json

/-- Names in the order in which members are kept. -/
def Sorted (members : List (String × Json)) : Prop :=
  members.Pairwise fun first second => before first.1 second.1 = true

/-- Values made of strings, natural numbers, arrays, and objects with sorted members, in which at most
so many brackets are opened. -/
inductive Plain : Nat → Json → Prop
  | str {depth s} : Plain depth (.str s)
  | nat {depth n} (hrange : n ≤ NumberText.greatest) : Plain depth (.int n)
  | arr {depth items} (hitems : ∀ item ∈ items, Plain depth item) : Plain (depth + 1) (.arr items)
  | obj {depth members} (hsorted : Sorted members) (hvalues : ∀ m ∈ members, Plain depth m.2) :
    Plain (depth + 1) (.obj members)

/-- A member with a later name than the others goes to their end. -/
theorem insertMember_last {name : String} (value : Json) {members : List (String × Json)}
    (h : ∀ m ∈ members, before m.1 name = true) :
    insertMember name value members = members ++ [(name, value)] := by
  induction members with
  | nil => rfl
  | cons m members ih =>
      obtain ⟨other, old⟩ := m
      have hbefore : other < name := of_decide_eq_true (h (other, old) List.mem_cons_self)
      have hne : name ≠ other := fun heq => String.lt_irrefl name (heq ▸ hbefore)
      have hnot : ¬before name other = true := fun hafter =>
        String.lt_asymm hbefore (of_decide_eq_true hafter)
      rw [insertMember, if_neg hne, if_neg hnot, ih fun m hm => h m (List.mem_cons_of_mem _ hm),
        List.cons_append]

/-- At any depth, scalars are read alike. -/
theorem read_eq_anyValue (depth : Nat) : ∃ list object,
    read depth = Reader.anyValue (fun s => return ofScalar s) list object := by
  cases depth with
  | zero => exact ⟨_, _, by rw [read]⟩
  | succ depth => exact ⟨_, _, by rw [read]⟩

/-- Members in their order stay in it when they are sorted in behind others. -/
theorem sortedInto_of_sorted {seen members : List (String × Json)} (hsorted : Sorted (seen ++ members))
    (hvalues : ∀ m ∈ members, m.2.sorted = m.2) : sortedInto seen members = seen ++ members := by
  induction members generalizing seen with
  | nil => rw [sortedInto, List.append_nil]
  | cons m members ih =>
      obtain ⟨name, value⟩ := m
      -- what is sorted already comes before this member, so it goes to the end
      have hlast : ∀ other ∈ seen, before other.1 name = true := fun other hother =>
        (List.pairwise_append.mp hsorted).2.2 other hother (name, value) List.mem_cons_self
      have hvalue : value.sorted = value := hvalues (name, value) List.mem_cons_self
      have hnext : seen ++ (name, value) :: members = (seen ++ [(name, value)]) ++ members := by simp
      rw [hnext] at hsorted ⊢
      rw [sortedInto, hvalue, insertMember_last value hlast]
      exact ih hsorted fun m hm => hvalues m (List.mem_cons_of_mem _ hm)

theorem Plain.sorted_eq {depth : Nat} {value : Json} (h : Plain depth value) : value.sorted = value := by
  induction h with
  | str => rw [sorted]
  | nat => rw [sorted]
  | @arr depth items _ ih =>
      rw [sorted, sortedItems_eq_map, List.map_congr_left ih, List.map_id']
  | @obj depth members hsorted _ ih =>
      have hmembers : sortedInto [] members = [] ++ members := sortedInto_of_sorted hsorted ih
      rw [sorted, hmembers, List.nil_append]

theorem Plain.nested {depth : Nat} {value : Json} (h : Plain depth value) : Nested depth value := by
  induction h with
  | str => exact .str
  | nat hrange => exact .nat hrange
  | arr _ ih => exact .arr ih
  | obj _ _ ih => exact .obj ih

/-- A plain value is read back where a value of any kind is asked for. -/
theorem any_reads {depth : Nat} {value : Json} (h : Plain depth value) :
    Codec.any.Reads depth value value := by
  intro rest hrest
  have hwritten : readWritten depth (value.bytes ++ rest) = .ok (value, rest) :=
    written_reads h.nested rest hrest
  show read depth (value.bytes ++ rest) = .ok (value, rest)
  rw [read_eq, Reader.map_ok sorted hwritten, h.sorted_eq]

end Json

end RegionGateway
