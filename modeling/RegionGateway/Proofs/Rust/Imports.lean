import RegionGateway.Rust.Import

/-!
# What is imported

The entries of imports stay sorted by path, so looking up a path finds all of its symbols: a symbol is
imported from a path if and only if that was recorded (`mem_symbolsOf_recordAll`). The use of a module is
its path up to the last segment, and that segment (`path_moduleUse`).
-/

namespace RegionGateway.Rust

/-! ## Uses of modules -/

/-- A module of several segments is brought in by its local name. -/
theorem symbol_moduleUse {path : String} {use : Use} (h : moduleUse? path = some use) :
    use.symbol = localName path := by
  unfold moduleUse? at h
  split at h
  · cases h
  · next name hname =>
      cases h
      rw [localName, hname]
      rfl

theorem exists_before {cs tail : List Char} (h : afterDoubleColon? cs = some tail) :
    ∃ before, cs = before ++ ':' :: ':' :: tail := by
  induction cs with
  | nil => cases h
  | cons c rest ih =>
      unfold afterDoubleColon? at h
      split at h
      · next later hlater =>
          obtain ⟨before, hbefore⟩ := ih (hlater.trans h)
          exact ⟨c :: before, congrArg (c :: ·) hbefore⟩
      · split at h
        · next hcolons =>
            obtain ⟨behind, hbehind⟩ := List.head?_eq_some_iff.mp hcolons.2
            refine ⟨[], ?_⟩
            rw [← Option.some.inj h, hbehind, hcolons.1]
            rfl
        · cases h

/-- A module with a path of several segments is brought in from the rest of its path. -/
theorem path_moduleUse {path : String} {use : Use} (h : moduleUse? path = some use) :
    path = use.path ++ "::" ++ use.symbol := by
  unfold moduleUse? at h
  split at h
  · cases h
  · next tail htail =>
      cases h
      obtain ⟨before, hbefore⟩ := exists_before htail
      have htaken : path.toList.take (path.toList.length - tail.length - 2) = before := by
        have hlength : path.toList.length - tail.length - 2 = before.length := by
          simp only [hbefore, List.length_append, List.length_cons]
          omega
        rw [hlength, hbefore, List.take_left]
      apply String.toList_inj.mp
      rw [htaken, hbefore]
      simp [String.toList_append]

namespace Imports

/-! ## Recorded uses -/

theorem mem_insertSymbol {symbol other : String} {symbols : List String} :
    other ∈ insertSymbol symbol symbols ↔ other = symbol ∨ other ∈ symbols := by
  induction symbols with
  | nil => simp [insertSymbol]
  | cons first rest ih =>
      unfold insertSymbol
      split
      · next hsame => simp [hsame]
      · split
        · exact List.mem_cons
        · simp [ih, or_left_comm]

/-- Sorted by path, no path twice. -/
def Ascending (entries : List (String × List String)) : Prop :=
  entries.Pairwise fun a b => a.1 < b.1

theorem mem_insertUse {use : Use} {entries : List (String × List String)} {entry : String × List String}
    (h : entry ∈ insertUse use entries) :
    entry.1 = use.path ∨ ∃ other ∈ entries, entry.1 = other.1 := by
  induction entries with
  | nil => exact .inl (List.mem_singleton.mp h ▸ rfl)
  | cons first rest ih =>
      unfold insertUse at h
      split at h
      · next hsame =>
          rcases List.mem_cons.mp h with rfl | h
          · exact .inl hsame.symm
          · exact .inr ⟨entry, List.mem_cons_of_mem _ h, rfl⟩
      · split at h
        · rcases List.mem_cons.mp h with rfl | h
          · exact .inl rfl
          · exact .inr ⟨entry, h, rfl⟩
        · rcases List.mem_cons.mp h with rfl | h
          · exact .inr ⟨_, List.mem_cons_self, rfl⟩
          · refine (ih h).imp_right ?_
            rintro ⟨other, hother, hpath⟩
            exact ⟨other, List.mem_cons_of_mem _ hother, hpath⟩

theorem ascending_insertUse {use : Use} {entries : List (String × List String)}
    (h : Ascending entries) : Ascending (insertUse use entries) := by
  induction entries with
  | nil => exact List.pairwise_singleton _ _
  | cons first rest ih =>
      obtain ⟨hfirst, hrest⟩ := List.pairwise_cons.mp h
      unfold insertUse
      split
      · exact List.pairwise_cons.mpr ⟨hfirst, hrest⟩
      · next hother =>
          split
          · next hbefore =>
              refine List.pairwise_cons.mpr ⟨?_, h⟩
              rintro entry hentry
              rcases List.mem_cons.mp hentry with rfl | hentry
              · exact hbefore
              · exact String.lt_trans hbefore (hfirst entry hentry)
          · next hbehind =>
              have hafter : first.1 < use.path :=
                Decidable.byContradiction fun h => hother (String.le_antisymm h hbehind)
              refine List.pairwise_cons.mpr ⟨?_, ih hrest⟩
              intro entry hentry
              rcases mem_insertUse hentry with hpath | ⟨other, hmem, hpath⟩
              · exact hpath ▸ hafter
              · exact hpath ▸ hfirst other hmem

/-- A path before all entries is not among them. -/
theorem lookup_eq_none_of_lt {path : String} {entries : List (String × List String)}
    (h : ∀ entry ∈ entries, path < entry.1) : entries.lookup path = none := by
  refine List.lookup_eq_none_iff.mpr fun entry hentry => ?_
  refine bne_iff_ne.mpr ?_
  rintro rfl
  exact String.lt_irrefl _ (h entry hentry)

theorem mem_lookup_insertUse {use : Use} {path symbol : String}
    {entries : List (String × List String)} (h : Ascending entries) :
    symbol ∈ ((insertUse use entries).lookup path).getD [] ↔
      use = ⟨path, symbol⟩ ∨ symbol ∈ (entries.lookup path).getD [] := by
  obtain ⟨origin, name⟩ := use
  simp only [Use.mk.injEq]
  induction entries with
  | nil =>
      by_cases hpath : path = origin
      · simp [insertUse, hpath, eq_comm]
      · simp [insertUse, List.lookup_cons, beq_eq_false_iff_ne.mpr hpath, Ne.symm hpath]
  | cons first rest ih =>
      obtain ⟨here, symbols⟩ := first
      obtain ⟨hfirst, hrest⟩ := List.pairwise_cons.mp h
      unfold insertUse
      split
      · next hsame =>
          have horigin : origin = here := hsame
          by_cases hpath : path = here
          · simp [hpath, horigin, mem_insertSymbol, eq_comm]
          · have hother : origin ≠ path := fun h => hpath (h.symm.trans hsame)
            simp [List.lookup_cons, beq_eq_false_iff_ne.mpr hpath, hother]
      · next hother =>
          split
          · next hbefore =>
              by_cases hpath : path = origin
              · have habsent : ((here, symbols) :: rest).lookup path = none := by
                  refine lookup_eq_none_of_lt fun entry hentry => ?_
                  rcases List.mem_cons.mp hentry with rfl | hentry
                  · exact hpath ▸ hbefore
                  · exact hpath ▸ String.lt_trans hbefore (hfirst entry hentry)
                rw [habsent]
                simp [hpath, eq_comm]
              · rw [List.lookup_cons, beq_eq_false_iff_ne.mpr hpath]
                simp [Ne.symm hpath]
          · by_cases hpath : path = here
            · simp [hpath, hother]
            · simpa [List.lookup_cons, beq_eq_false_iff_ne.mpr hpath] using ih hrest

/-- A symbol is imported from a path if that is recorded. -/
theorem mem_symbolsOf_recordAll {uses : List Use} {path symbol : String} :
    symbol ∈ (empty.recordAll uses).symbolsOf path ↔ ⟨path, symbol⟩ ∈ uses := by
  have hrecorded : ∀ imports : Imports, Ascending imports.entries →
      (symbol ∈ (imports.recordAll uses).symbolsOf path ↔
        ⟨path, symbol⟩ ∈ uses ∨ symbol ∈ imports.symbolsOf path) := by
    induction uses with
    | nil => intro imports _; simp [recordAll]
    | cons use uses ih =>
        intro imports hascending
        rw [recordAll, List.foldl_cons]
        refine (ih (imports.record use) (ascending_insertUse hascending)).trans ?_
        rw [symbolsOf, record, mem_lookup_insertUse hascending, List.mem_cons, or_assoc,
          or_left_comm]
        simp only [eq_comm, symbolsOf]
  refine (hrecorded empty List.Pairwise.nil).trans ?_
  simp [symbolsOf, empty]

end Imports

end RegionGateway.Rust
