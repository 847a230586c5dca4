import RegionGateway.Proofs.Output.Files
import RegionGateway.Proofs.Rust.Leaves

/-!
# What a file refers to, and what it brings in

A file refers to symbols of the runtime by their names and to modules by their local names. Both are looked
for among the words of the text of declarations (`Chunk.refersTo`) and among what they import
(`Chunk.bringsIn`), by one predicate on words (`Watches`): fixed texts of the generator are not hit
(`hits_fixed`), names that are not taken neither (`hits_avoids`), and names with others before or behind them
are no symbols (`hits_prefixed`, `hits_suffixed`).
-/

namespace RegionGateway

open Rust

/-! ## Watched words -/

/-- The symbols of the runtime that generated files use. -/
def runtimeSymbols : List String := [
  "GatewayError", "RegionContext", "Enforcer", "ResponseSink", "BackendStream", "ControllerRoute", "ApiTransport",
  "ClientError", "ModFn", "RegionObj", "RegionObjFields", "async_trait", "decode_request", "serve_stream",
  "reply_json", "set_region_obj_fields", "call_unary", "call_stream"]

/-- The other words that stand before a double colon in generated files, or are imported. -/
def keptWords : List String := ["Self", "super", "clippy", "Serialize", "Deserialize"]

namespace ModulePaths

variable (paths : ModulePaths)

/-- The modules that generated files import. -/
def modules : List String := [paths.messages, paths.wrappers, paths.bindings, paths.testHelpers]

theorem messages_mem : paths.messages ∈ paths.modules := by simp [modules]

theorem wrappers_mem : paths.wrappers ∈ paths.modules := by simp [modules]

theorem bindings_mem : paths.bindings ∈ paths.modules := by simp [modules]

theorem testHelpers_mem : paths.testHelpers ∈ paths.modules := by simp [modules]

/-- The words that say what a file refers to. -/
def watched : List String := runtimeSymbols ++ paths.modules.map localName

end ModulePaths

/-- A text has none of the words. -/
def Avoids (words : List String) (text : String) : Prop := ∀ mention ∈ mentions text, mention.1 ∉ words

instance (words : List String) (text : String) : Decidable (Avoids words text) :=
  inferInstanceAs (Decidable (∀ mention ∈ mentions text, mention.1 ∉ words))

/-- The local names of modules are words that stand for nothing else, and tell the modules apart; their paths have
no symbols of the runtime. -/
structure ModulePaths.Apart (paths : ModulePaths) : Prop where
  words : ∀ path ∈ paths.modules, IsWord (localName path)
  free : ∀ path ∈ paths.modules, localName path ∉ runtimeSymbols ∧ localName path ∉ keptWords
  distinct : ∀ path ∈ paths.modules, ∀ other ∈ paths.modules, localName path = localName other → path = other
  avoids : ∀ path ∈ paths.runtime :: paths.modules, Avoids runtimeSymbols path

instance (paths : ModulePaths) : Decidable paths.Apart :=
  decidable_of_iff ((∀ path ∈ paths.modules, IsWord (localName path)) ∧
      (∀ path ∈ paths.modules, localName path ∉ runtimeSymbols ∧ localName path ∉ keptWords) ∧
      (∀ path ∈ paths.modules, ∀ other ∈ paths.modules, localName path = localName other → path = other) ∧
      ∀ path ∈ paths.runtime :: paths.modules, Avoids runtimeSymbols path)
    ⟨fun ⟨hwords, hfree, hdistinct, havoids⟩ => ⟨hwords, hfree, hdistinct, havoids⟩,
      fun h => ⟨h.words, h.free, h.distinct, h.avoids⟩⟩

/-- A word that is none of those taken. -/
def IsFree (taken : List String) (name : String) : Prop := IsWord name ∧ name ∉ taken

instance (taken : List String) (name : String) : Decidable (IsFree taken name) :=
  inferInstanceAs (Decidable (_ ∧ _))

theorem IsFree.avoids {taken : List String} {name : String} (h : IsFree taken name) : Avoids taken name := by
  rw [Avoids, mentions_word h.1]
  exact List.forall_mem_singleton.mpr h.2

/-- Characters that say nothing about the runtime or modules. -/
def areFixed (chars : List Char) : Bool :=
  (mentionsAfter [] chars).all fun mention =>
    mention.1 ∉ runtimeSymbols && (!mention.2 || mention.1 ∈ keptWords)

/-- A text that says nothing about the runtime or modules. -/
abbrev IsFixed : String → Prop := Checks areFixed

/-- Mentions of symbols of the runtime are looked for, and mentions of modules that are imported. -/
structure Watches (paths : ModulePaths) (p : Mention → Bool) : Prop where
  watched : ∀ mention, p mention = true → mention.1 ∈ runtimeSymbols ∨
    mention.2 = true ∧ mention.1 ∈ paths.modules.map localName ∧ mention.1 ∉ keptWords
  symbols : ∀ symbol ∈ runtimeSymbols, p (symbol, false) = p (symbol, true)
  modules : ∀ path ∈ paths.modules, moduleUse? path = none → p (localName path, true) = false

/-! ## Texts that are not hit, and texts that are -/

section

variable {paths : ModulePaths} {p : Mention → Bool} {a b : String} (hw : Watches paths p)
include hw

theorem Watches.ignores : Ignores p := by
  have hlayout : ∀ word ∈ layoutWords, word ∉ runtimeSymbols := by decide
  refine fun word hword => Bool.eq_false_iff.mpr fun h => ?_
  rcases hw.watched _ h with hsymbol | ⟨hcolons, -⟩
  · exact hlayout word hword hsymbol
  · cases hcolons

theorem Watches.kept {word : String} (h : word ∈ keptWords) : p (word, true) = false := by
  have hfree : ∀ word ∈ keptWords, word ∉ runtimeSymbols := by decide
  refine Bool.eq_false_iff.mpr fun hp => ?_
  rcases hw.watched _ hp with hsymbol | ⟨-, -, hother⟩
  · exact hfree word h hsymbol
  · exact hother h

theorem Watches.free {word : String} (h : word ∉ paths.watched) (colons : Bool) : p (word, colons) = false := by
  rw [ModulePaths.watched, List.mem_append, not_or] at h
  refine Bool.eq_false_iff.mpr fun hp => ?_
  rcases hw.watched _ hp with hsymbol | ⟨-, hmodule, -⟩
  · exact h.1 hsymbol
  · exact h.2 hmodule

theorem hits_fixed (h : IsFixed a) : hits p a = false := by
  rw [hits, List.any_eq_false]
  intro mention hmention hp
  have hfixed := List.all_eq_true.mp h mention hmention
  simp only [Bool.and_eq_true, Bool.or_eq_true, decide_eq_true_eq, Bool.not_eq_true'] at hfixed
  obtain ⟨hsymbol, hkept⟩ := hfixed
  rcases hw.watched mention hp with h | ⟨hcolons, -, hfree⟩
  · exact hsymbol h
  · exact hkept.elim (fun hplain => by simp [hcolons] at hplain) hfree

theorem hits_behind (hend : EndsOpen a) (h : IsFixed a) : hits p (a ++ b) = hits p b := by
  rw [hits_append_right hend, hits_fixed hw h, Bool.false_or]

theorem hits_before (hstart : StartsOpen b) (h : IsFixed b) : hits p (a ++ b) = hits p a := by
  rw [hits_append_left hstart, hits_fixed hw h, Bool.or_false]

theorem hits_between {glue : String} (hstart : StartsOpen glue) (hend : EndsOpen glue) (h : IsFixed glue) :
    hits p (a ++ glue ++ b) = (hits p a || hits p b) := by
  rw [hits_append_right hend.append, hits_before hw hstart h]

theorem hits_avoids (h : Avoids paths.watched a) : hits p a = false := by
  rw [hits, List.any_eq_false]
  exact fun mention hmention => Bool.eq_false_iff.mp (hw.free (h mention hmention) mention.2)

theorem hits_symbol (h : a ∈ runtimeSymbols) : hits p a = p (a, true) := by
  have hwords : ∀ symbol ∈ runtimeSymbols, IsWord symbol := by decide
  rw [hits, mentions_word (hwords a h), List.any_cons, List.any_nil, Bool.or_false, hw.symbols a h]

theorem hits_word (h : IsWord a) (hfree : a ∉ runtimeSymbols) : hits p a = false := by
  rw [hits, mentions_word h, List.any_cons, List.any_nil, Bool.or_false]
  refine Bool.eq_false_iff.mpr fun hp => ?_
  rcases hw.watched _ hp with hsymbol | ⟨hcolons, -⟩
  · exact hfree hsymbol
  · cases hcolons

/-- A word with another before it that no symbol of the runtime begins with. -/
theorem hits_start (ha : IsWord a) (hfree : ∀ symbol ∈ runtimeSymbols, ¬ a.toList <+: symbol.toList)
    (hb : IsWord b) : hits p (a ++ b) = false := by
  refine hits_word hw (isWord_append ha (List.all_eq_true.mpr hb.2)) fun hsymbol => hfree _ hsymbol ?_
  rw [String.toList_append]
  exact List.prefix_append _ _

/-- A name with a word before it that no symbol of the runtime begins with. -/
theorem hits_prefixed (hstart : IsWord a) (hfree : ∀ symbol ∈ runtimeSymbols, ¬ a.toList <+: symbol.toList)
    (hname : IsName b) (h : Avoids paths.watched b) : hits p (a ++ b) = false := by
  rw [hits, List.any_eq_false]
  intro mention hmention hp
  obtain ⟨hplain, ⟨rest, hrest⟩ | hmention⟩ := mem_mentions_append hstart hname hmention
  · rcases hw.watched mention hp with hsymbol | ⟨hcolons, -⟩
    · refine hfree _ hsymbol ?_
      rw [hrest, String.toList_append]
      exact List.prefix_append _ _
    · simp [hplain] at hcolons
  · exact Bool.eq_false_iff.mp (hits_avoids hw h) (List.any_eq_true.mpr ⟨mention, hmention, hp⟩)

/-- A word with another behind it that no symbol of the runtime ends in. -/
theorem hits_suffixed (ha : IsWord a) (hb : IsWord b)
    (hfree : ∀ symbol ∈ runtimeSymbols, ¬ b.toList <:+ symbol.toList) : hits p (a ++ b) = false := by
  refine hits_word hw (isWord_append ha (List.all_eq_true.mpr hb.2)) fun hsymbol => hfree _ hsymbol ?_
  rw [String.toList_append]
  exact List.suffix_append _ _

end

theorem hits_inModule {paths : ModulePaths} (hpaths : paths.Apart) {path : String} (h : path ∈ paths.modules)
    (p : Mention → Bool) (name : String) :
    hits p (localName path ++ "::" ++ name) = (p (localName path, true) || hits p name) := by
  rw [hits, mentions_inModule (hpaths.words path h), List.any_cons, hits]

/-! ## What is referred to, and what is brought in -/

namespace Chunk

variable (p : Mention → Bool) (chunk : Chunk)

/-- What is looked for is imported. -/
def bringsIn : Bool := chunk.uses.any fun use => p (use.symbol, true)

/-- What is looked for is found in the text. -/
def refersTo : Bool := hits p chunk.text

variable {p}

/-- What is found in the text is found in what stands in the declarations. -/
theorem refersTo_eq (hp : Ignores p) :
    chunk.refersTo p = chunk.items.any fun item => item.leaves.any (hits p) := by
  have hlines : ∀ line ∈ chunk.items.map Item.text, EndsOpen line := by
    rw [List.forall_mem_map]
    exact fun _ _ => isGlue_newline.ends.append
  rw [refersTo, text, ← String.append_empty (s := Text.join "" _), Rust.hits_lines hlines, hits_empty,
    Bool.or_false, List.any_map]
  simp only [Function.comp_def, Item.hits_text hp]

theorem refersTo_append (hp : Ignores p) (other : Chunk) :
    (chunk.append other).refersTo p = (chunk.refersTo p || other.refersTo p) := by
  simp [refersTo_eq _ hp]

theorem refersTo_concat (hp : Ignores p) (chunks : List Chunk) :
    (concat chunks).refersTo p = chunks.any (refersTo p) := by
  have heach : refersTo p = fun chunk => chunk.items.any fun item => item.leaves.any (hits p) :=
    funext fun chunk => refersTo_eq chunk hp
  rw [refersTo_eq _ hp, concat_items, List.any_flatMap, heach]

theorem bringsIn_append (other : Chunk) :
    (chunk.append other).bringsIn p = (chunk.bringsIn p || other.bringsIn p) := by
  simp [bringsIn]

theorem bringsIn_concat (chunks : List Chunk) : (concat chunks).bringsIn p = chunks.any (bringsIn p) := by
  rw [bringsIn, concat_uses, List.any_flatMap]
  rfl

end Chunk

/-- What brings in modules and symbols of the runtime. -/
theorem any_uses {paths : ModulePaths} {p : Mention → Bool} (hw : Watches paths p) {modules : List String}
    (h : modules ⊆ paths.modules) (symbols : List String) :
    (paths.uses modules symbols).any (fun use => p (use.symbol, true)) =
      (modules.any (fun path => p (localName path, true)) || symbols.any fun symbol => p (symbol, true)) := by
  -- A module of one segment is not imported, but then it is not looked for either.
  have hmodules : (modules.filterMap moduleUse?).any (fun use => p (use.symbol, true)) =
      modules.any fun path => p (localName path, true) := by
    induction modules with
    | nil => rfl
    | cons path rest ih =>
        obtain ⟨hpath, hrest⟩ := List.cons_subset.mp h
        rw [List.any_cons, ← ih hrest]
        cases huse : moduleUse? path with
        | none => rw [List.filterMap_cons_none huse, hw.modules path hpath huse, Bool.false_or]
        | some use => rw [List.filterMap_cons_some huse, List.any_cons, symbol_moduleUse huse]
  rw [ModulePaths.uses, List.any_append, hmodules, List.any_map]
  rfl

end RegionGateway
