import Mathlib.Data.List.Chain
import Mathlib.Tactic.Common
import RegionGateway.Text.Case

/-!
# Small letters

No lower-case character is upper case or changed by lower-casing (`stays_of_isLower`): the tables do not
overlap. Two runs are told apart by their ends, or by parity where both keep it (`areApart`); tables in
ascending order are compared in one pass over both (`areApart_of_sweep`).
-/

namespace RegionGateway.Text

/-! ## Runs -/

/-- Whether all members of a run are even or all are odd. -/
def keepsParity (run : Nat × Nat × Nat) : Bool := run.2.2 == 2 || run.1 == run.2.1

/-- Whether it is seen that two runs have no member in common. -/
def areApart (r s : Nat × Nat × Nat) : Bool :=
  Nat.blt r.2.1 s.1 || Nat.blt s.2.1 r.1 || (keepsParity r && keepsParity s && (r.1 + s.1) % 2 == 1)

theorem mod_two_of_inRun {n : Nat} {run : Nat × Nat × Nat} (h : inRun n run = true)
    (hparity : keepsParity run = true) : n % 2 = run.1 % 2 := by
  simp only [inRun, Bool.and_eq_true, decide_eq_true_eq, beq_iff_eq] at h
  obtain ⟨⟨hle, hlt⟩, hstep⟩ := h
  simp only [keepsParity, Bool.or_eq_true, beq_iff_eq] at hparity
  rcases hparity with htwo | hsingle
  · rw [htwo] at hstep
    omega
  · omega

theorem inRun_of_areApart {n : Nat} {r s : Nat × Nat × Nat} (hapart : areApart r s = true)
    (hr : inRun n r = true) : inRun n s = false := by
  by_contra hs
  rw [Bool.not_eq_false] at hs
  simp only [areApart, Bool.or_eq_true, Bool.and_eq_true, beq_iff_eq, Nat.blt_eq] at hapart
  have hbounds : ∀ {run : Nat × Nat × Nat}, inRun n run = true → run.1 ≤ n ∧ n ≤ run.2.1 := by
    intro run h
    simp only [inRun, Bool.and_eq_true, decide_eq_true_eq] at h
    exact h.1
  have hrn := hbounds hr
  have hsn := hbounds hs
  rcases hapart with (hbefore | hbehind) | ⟨⟨hparity, hparity'⟩, hodd⟩
  · omega
  · omega
  · have heven := (mod_two_of_inRun hr hparity).symm.trans (mod_two_of_inRun hs hparity')
    omega

/-- A run stands before another one, which is not empty. -/
def Before (r s : Nat × Nat × Nat) : Prop := r.2.1 < s.1 ∧ s.1 ≤ s.2.1

instance : DecidableRel Before := fun _ _ => inferInstanceAs (Decidable (_ ∧ _))

instance : Trans Before Before Before where
  trans h h' := ⟨Nat.lt_of_lt_of_le h.1 (Nat.le_trans h.2 h'.1.le), h'.2⟩

/-- One pass over two tables that compares the runs that are next, and goes on in the table where the run
ends first. -/
def sweep : Nat → List (Nat × Nat × Nat) → List (Nat × Nat × Nat) → Bool
  | 0, _, _ => false
  | _, [], _ => true
  | _, _, [] => true
  | limit + 1, r :: rs, s :: ss =>
    areApart r s && if Nat.ble r.2.1 s.2.1 then sweep limit rs (s :: ss) else sweep limit (r :: rs) ss

/-- The run that ends first stands before all that follow in the other table. -/
theorem areApart_of_sweep (limit : Nat) {rs ss : List (Nat × Nat × Nat)} (hrs : rs.IsChain Before)
    (hss : ss.IsChain Before) (h : sweep limit rs ss = true) : ∀ r ∈ rs, ∀ s ∈ ss, areApart r s = true := by
  rw [List.isChain_iff_pairwise] at hrs hss
  fun_induction sweep limit rs ss with
  | case1 => cases h
  | case2 => simp
  | case3 => simp
  | case4 limit r rs s ss ihFirst ihSecond =>
      obtain ⟨hr, hrs'⟩ := List.pairwise_cons.mp hrs
      obtain ⟨hs, hss'⟩ := List.pairwise_cons.mp hss
      obtain ⟨hapart, hrest⟩ := Bool.and_eq_true_iff.mp h
      split at hrest
      · next hends =>
          -- the run of the first table ends before all that follow in the second
          have hlater := ihFirst hrs' hss hrest
          refine List.forall_mem_cons.mpr ⟨List.forall_mem_cons.mpr ⟨hapart, fun s' hs' => ?_⟩, hlater⟩
          have hbefore := Nat.lt_of_le_of_lt (Nat.le_of_ble_eq_true hends) (hs s' hs').1
          simp [areApart, Nat.blt_eq.mpr hbefore]
      · next hends =>
          have hlater := ihSecond hrs hss' hrest
          intro r' hr' s' hs'
          rcases List.mem_cons.mp hs' with rfl | hs'
          · rcases List.mem_cons.mp hr' with rfl | hr'
            · exact hapart
            · have hlt : s'.2.1 < r.2.1 := by simpa using hends
              have hbefore := Nat.lt_trans hlt (hr r' hr').1
              simp [areApart, Nat.blt_eq.mpr hbefore]
          · exact hlater r' hr' s' hs'

/-! ## Small letters -/

/-- The runs of characters that lower-casing maps to another one. -/
def loweredRuns : List (Nat × Nat × Nat) := toLowerRuns.map fun (start, last, step, _) => (start, last, step)

theorem areApart_upperRuns : ∀ r ∈ lowerRuns, ∀ s ∈ upperRuns, areApart r s = true :=
  areApart_of_sweep 1000 (by decide +kernel) (by decide +kernel) (by decide +kernel)

theorem areApart_loweredRuns : ∀ r ∈ lowerRuns, ∀ s ∈ loweredRuns, areApart r s = true :=
  areApart_of_sweep 1000 (by decide +kernel) (by decide +kernel) (by decide +kernel)

theorem shift_loweredRuns {n : Nat} (h : ∀ s ∈ loweredRuns, inRun n s = false) : shift toLowerRuns n = n := by
  unfold shift
  split
  · next start last step image hfind =>
      have hmem := List.mem_map_of_mem (f := fun (start, last, step, _) => (start, last, step))
        (List.mem_of_find?_eq_some hfind)
      have hrun : inRun n (start, last, step) = true := by simpa using List.find?_some hfind
      rw [h _ hmem] at hrun
      cases hrun
  · rfl

/-- A property of ASCII characters is one of finitely many. -/
theorem forall_ascii {p : Char → Prop} (h : ∀ n < 0x80, p (Char.ofNat n)) {c : Char} (hc : c.toNat < 0x80) :
    p c :=
  Char.ofNat_toNat c ▸ h c.toNat hc

/-- A lower-case character is no capital and stays as it is. -/
theorem stays_of_isLower {c : Char} (h : isLower c = true) : isUpper c = false ∧ lowerChar c = [c] := by
  by_cases hascii : c.toNat < 0x80
  · exact forall_ascii (p := fun c => isLower c = true → isUpper c = false ∧ lowerChar c = [c])
      (by decide +kernel) hascii h
  · rw [isLower, if_neg hascii] at h
    obtain ⟨run, hrun, hn⟩ := List.any_eq_true.mp h
    constructor
    · rw [isUpper, if_neg hascii]
      exact List.any_eq_false.mpr fun s hs => by simp [inRun_of_areApart (areApart_upperRuns run hrun s hs) hn]
    · have hsingle : toLowerSeveral.lookup c.toNat = none := by
        have hother : ∀ entry ∈ toLowerSeveral, ∀ run ∈ lowerRuns, inRun entry.1 run = false := by
          decide +kernel
        refine List.lookup_eq_none_iff.mpr fun entry hentry => bne_iff_ne.mpr fun hsame => ?_
        rw [hsame, hother entry hentry run hrun] at hn
        cases hn
      have hstays := shift_loweredRuns fun s hs => inRun_of_areApart (areApart_loweredRuns run hrun s hs) hn
      rw [lowerChar, if_neg hascii, hsingle]
      dsimp only
      rw [hstays, Char.ofNat_toNat]

end RegionGateway.Text
