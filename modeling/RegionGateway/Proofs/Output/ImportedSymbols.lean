import RegionGateway.Proofs.Output.Agreement
import RegionGateway.Proofs.Output.ServerSymbols
import RegionGateway.Proofs.Rust.Headings

/-!
# Imports and what files refer to

A generated file imports the symbols of the runtime and the modules that it refers to, and no others
(`Generation.imports_exactly`). The declarations of a method alone may import too much: a handler imports the
messages, which only the trait of its service is sure to refer to. So the two are compared service by service
(`Mode.refersTo_serviceChunk`). That everything imported is a module, a symbol of the runtime or neither
(`ModulePaths.Offers`) makes the names tell where they are imported from.
-/

namespace RegionGateway

open Rust

variable {paths : ModulePaths} {p : Mention → Bool}

/-- The name of a service and all that its methods are made of say nothing about the runtime or modules. -/
structure ServicePlan.Plain (taken : List String) (service : ServicePlan) : Prop where
  name : IsFree taken service.name
  methods : ∀ plan ∈ service.methods, plan.Plain taken

instance (taken : List String) (service : ServicePlan) : Decidable (service.Plain taken) :=
  decidable_of_iff (IsFree taken service.name ∧ ∀ plan ∈ service.methods, plan.Plain taken)
    ⟨fun ⟨hname, hmethods⟩ => ⟨hname, hmethods⟩, fun h => ⟨h.name, h.methods⟩⟩

/-! ## Services -/

theorem Chunk.any_refersTo_map {α : Type} (chunk : α → Chunk) {items : List α}
    (h : ∀ item ∈ items, (chunk item).refersTo p = (chunk item).bringsIn p) :
    (items.map chunk).any (refersTo p) = (items.map chunk).any (bringsIn p) := by
  rw [List.any_map, List.any_map, Bool.eq_iff_iff, List.any_eq_true, List.any_eq_true]
  exact exists_congr fun item => and_congr_right fun hitem => Eq.congr_left (h item hitem)

/-- The tests of the messages of a service are made of its plain methods. -/
theorem MessageTests.plain_ofService {request : Request} {inputs : InputIndex} {service : ServicePlan}
    {taken : List String} (h : service.Plain taken) {tests : MessageTests}
    (htests : tests ∈ ofService request inputs service) : tests.Plain taken := by
  obtain ⟨hguarded, hviews, plan, hplan, hsuffix⟩ := mem_ofService htests
  have hinput := (h.methods plan hplan).inputType.1
  refine ⟨?_, ?_, fun other hother => h.methods other (hguarded other hother).1,
    fun other hother => h.methods other (hviews other hother).1⟩
  · rw [ofService_eq] at htests
    obtain ⟨message, hmessage, rfl⟩ := List.mem_map.mp htests
    obtain ⟨taker, htaker, rfl⟩ := List.mem_map.mp (Route.mem_distinct.mp hmessage).1
    exact (h.methods taker (List.mem_filter.mp htaker).1).inputType.avoids
  · rcases hsuffix with hsuffix | hsuffix
    · exact hsuffix ▸ isWord_snakeCase (isWord_append h.name.1 (List.all_eq_true.mpr hinput.2))
    · exact hsuffix ▸ isWord_snakeCase hinput

section

variable (hpaths : paths.Apart) (hw : Watches paths p)
include hpaths hw

/-- Handlers import the messages even if they do not refer to them; the trait of the service does. -/
theorem Handler.refersTo_service {service : ServicePlan} (h : service.Plain paths.watched)
    (hmethods : service.methods ≠ []) :
    ((backendTrait paths service).refersTo p || (service.methods.map (chunk paths)).any (Chunk.refersTo p)) =
      ((backendTrait paths service).bringsIn p || (service.methods.map (chunk paths)).any (Chunk.bringsIn p)) := by
  have hmessages : p (localName paths.messages, true) = true → (backendTrait paths service).bringsIn p = true := by
    intro hp
    rw [Chunk.bringsIn, backendTrait, any_uses hw (by simp [ModulePaths.modules])]
    simp [hp]
  have hchunk : ∀ plan ∈ service.methods, (chunk paths plan).bringsIn p =
      ((chunk paths plan).refersTo p || p (localName paths.messages, true)) :=
    fun plan hplan => bringsIn_chunk hpaths hw (h.methods plan hplan)
  rw [refersTo_backendTrait hpaths hw h.name h.methods hmethods, Bool.eq_iff_iff]
  simp only [Bool.or_eq_true, List.any_map, List.any_eq_true, Function.comp_apply]
  constructor
  · rintro (htrait | ⟨plan, hplan, hp⟩)
    · exact .inl htrait
    · exact .inr ⟨plan, hplan, by rw [hchunk plan hplan, hp, Bool.true_or]⟩
  · rintro (htrait | ⟨plan, hplan, hp⟩)
    · exact .inl htrait
    · rw [hchunk plan hplan, Bool.or_eq_true] at hp
      exact hp.elim (fun hp => .inr ⟨plan, hplan, hp⟩) fun hp => .inl (hmessages hp)

/-- The tests of messages import what the tests of methods do, which refer to all of it. -/
theorem PermissionTest.refersTo_service (request : Request) (inputs : InputIndex) {service : ServicePlan}
    (h : service.Plain paths.watched) (hmethods : service.methods ≠ []) :
    ((service.methods.map (chunk paths)).any (Chunk.refersTo p) ||
        ((MessageTests.ofService request inputs service).map (messageChunk paths)).any (Chunk.refersTo p)) =
      ((service.methods.map (chunk paths)).any (Chunk.bringsIn p) ||
        ((MessageTests.ofService request inputs service).map (messageChunk paths)).any (Chunk.bringsIn p)) := by
  obtain ⟨plan, hplan⟩ := List.exists_mem_of_ne_nil _ hmethods
  have hsame : ∀ tests, (messageChunk paths tests).bringsIn p = (chunk paths plan).bringsIn p := fun _ => rfl
  have hmessage : ∀ tests ∈ MessageTests.ofService request inputs service,
      (messageChunk paths tests).refersTo p = true → (chunk paths plan).bringsIn p = true := by
    intro tests htests
    rw [refersTo_messageChunk hpaths hw (MessageTests.plain_ofService h htests), Chunk.bringsIn, chunk, uses,
      any_uses hw (by simp [ModulePaths.modules])]
    simp
    grind
  rw [Chunk.any_refersTo_map (chunk paths) fun plan hplan => refersTo_chunk hpaths hw (h.methods plan hplan),
    Bool.eq_iff_iff]
  simp only [Bool.or_eq_true, List.any_map, List.any_eq_true, Function.comp_apply, hsame]
  constructor
  · rintro (hmethod | ⟨tests, htests, hp⟩)
    · exact .inl hmethod
    · exact .inl ⟨plan, hplan, hmessage tests htests hp⟩
  · rintro (hmethod | ⟨-, -, hp⟩)
    · exact .inl hmethod
    · exact .inl ⟨plan, hplan, hp⟩

namespace Mode

/-- What a service refers to is what it imports. -/
theorem refersTo_serviceChunk (request : Request) (inputs : InputIndex) (mode : Mode) {service : ServicePlan}
    (h : service.Plain paths.watched) (hmethods : service.methods ≠ []) :
    (serviceChunk request inputs mode paths service).refersTo p =
      (serviceChunk request inputs mode paths service).bringsIn p := by
  have hempty : Chunk.empty.refersTo p = false ∧ Chunk.empty.bringsIn p = false := ⟨rfl, rfl⟩
  rw [serviceChunk, Chunk.refersTo_concat hw.ignores, Chunk.bringsIn_concat]
  simp only [List.cons_append, List.any_cons, List.any_append, List.any_nil, Bool.or_false]
  cases mode with
  | server =>
      simpa [serviceHead, methodChunk, serviceTail, hempty] using Handler.refersTo_service hpaths hw h hmethods
  | api =>
      have hchunks := Chunk.any_refersTo_map (Wrapper.chunk paths)
        fun plan hplan => Wrapper.refersTo_chunk hpaths hw (h.methods plan hplan)
      simpa [serviceHead, methodChunk, serviceTail, hempty] using hchunks
  | client =>
      have hchunks := Chunk.any_refersTo_map (Binding.chunk paths)
        fun plan hplan => Binding.refersTo_chunk hpaths hw (h.methods plan hplan)
      simpa [serviceHead, methodChunk, serviceTail, hempty] using hchunks
  | testHelper =>
      have hchunks := Chunk.any_refersTo_map (TestHelper.chunk paths)
        fun plan hplan => TestHelper.refersTo_chunk hpaths hw (h.methods plan hplan)
      simpa [serviceHead, methodChunk, serviceTail, hempty] using hchunks
  | test =>
      have hchunks := PermissionTest.refersTo_service hpaths hw request inputs h hmethods
      simpa [serviceHead, methodChunk, serviceTail, hempty, Chunk.refersTo_concat hw.ignores,
        Chunk.bringsIn_concat] using hchunks

end Mode

end

/-! ## What can be imported -/

/-- Generated files import modules, symbols of the runtime, and names that are neither. -/
inductive ModulePaths.Offers (paths : ModulePaths) : Use → Prop
  | module {path : String} {use : Use} (hmodule : path ∈ paths.modules) (huse : moduleUse? path = some use) :
      Offers paths use
  | symbol {name : String} (hsymbol : name ∈ runtimeSymbols) : Offers paths (paths.ofRuntime name)
  | other {use : Use} (hname : IsFree paths.watched use.symbol) (hpath : Avoids runtimeSymbols use.path) :
      Offers paths use

theorem offers_uses {modules symbols : List String} (hmodules : modules ⊆ paths.modules)
    (hsymbols : symbols ⊆ runtimeSymbols) : ∀ use ∈ paths.uses modules symbols, paths.Offers use := by
  intro use huse
  rcases List.mem_append.mp huse with huse | huse
  · obtain ⟨path, hpath, hmodule⟩ := List.mem_filterMap.mp huse
    exact .module (hmodules hpath) hmodule
  · obtain ⟨name, hname, rfl⟩ := List.mem_map.mp huse
    exact .symbol (hsymbols hname)

theorem Handler.offers_chunk (plan : MethodPlan) : ∀ use ∈ (chunk paths plan).uses, paths.Offers use := by
  refine offers_uses (by simp [ModulePaths.modules]) ?_
  cases plan.streams <;> cases plan.derivesMask <;> decide

theorem Handler.offers_backendTrait (service : ServicePlan) :
    ∀ use ∈ (backendTrait paths service).uses, paths.Offers use := by
  refine offers_uses (by simp [ModulePaths.modules]) ?_
  cases service.methods.any (·.streams) <;> decide

theorem Binding.offers_chunk (plan : MethodPlan) : ∀ use ∈ (chunk paths plan).uses, paths.Offers use := by
  refine offers_uses (by simp [ModulePaths.modules]) ?_
  unfold callName
  split <;> decide

theorem TestHelper.offers_chunk (plan : MethodPlan) : ∀ use ∈ (chunk paths plan).uses, paths.Offers use :=
  offers_uses (by simp [ModulePaths.modules]) (by decide)

theorem PermissionTest.offers_uses : ∀ use ∈ uses paths, paths.Offers use :=
  RegionGateway.offers_uses (by simp [ModulePaths.modules]) (by decide)

theorem RouteTable.offers_chunk (mode : Mode) (request : Request) (routes : List Route) :
    ∀ use ∈ (chunk mode paths request routes).uses, paths.Offers use := by
  unfold chunk
  split
  · exact List.forall_mem_nil _
  · refine offers_uses (List.nil_subset _) ?_
    cases mode.dispatches <;> decide

/-- A wrapper is imported from the module that declares it, which is a sibling. -/
theorem Wrapper.offers_chunk (hpaths : paths.Apart) {plan : MethodPlan} (h : plan.Plain paths.watched) :
    ∀ use ∈ (chunk paths plan).uses, paths.Offers use := by
  have hkept : ∀ name ∈ ["Deserialize", "Serialize"], IsFree paths.watched name := by
    intro name hname
    have hplain : IsWord name ∧ name ∉ runtimeSymbols ∧ name ∈ keptWords := by
      revert name
      decide
    refine ⟨hplain.1, fun hwatched => ?_⟩
    rcases List.mem_append.mp hwatched with hsymbol | hmodule
    · exact hplain.2.1 hsymbol
    · obtain ⟨path, hpath, rfl⟩ := List.mem_map.mp hmodule
      exact (hpaths.free path hpath).2 hplain.2.2
  have hserde : Avoids runtimeSymbols "serde" := by decide
  intro use huse
  rw [chunk, Chunk.append_uses, List.append_nil] at huse
  split at huse
  · rcases List.mem_append.mp huse with huse | huse
    · refine offers_uses (by simp [ModulePaths.modules]) ?_ use huse
      cases plan.hasFields <;> decide
    · rcases List.mem_pair.mp huse with rfl | rfl
      · exact .other (hkept _ (by decide)) hserde
      · exact .other (hkept _ (by decide)) hserde
  · obtain ⟨owner, howner, rfl⟩ := Option.map_eq_some_iff.mp (Option.mem_toList.mp huse)
    refine .other h.isFree_wrapper ?_
    have hparts : "super::" ++ owner = "super" ++ "::" ++ owner := rfl
    rw [hparts, Avoids, mentions_inModule (by decide)]
    refine List.forall_mem_cons.mpr ⟨by decide, fun mention hmention hsymbol => ?_⟩
    exact h.wrapperModule owner howner mention hmention (List.mem_append_left _ hsymbol)

/-! ## What is looked for -/

/-- A symbol of the runtime is looked for. -/
theorem watches_symbol (hpaths : paths.Apart) {symbol : String} (h : symbol ∈ runtimeSymbols) :
    Watches paths fun mention => mention.1 == symbol where
  watched mention hmention := .inl (eq_of_beq hmention ▸ h)
  symbols _ _ := rfl
  modules path hpath _ := by
    have hother : localName path ≠ symbol := fun hsame => (hpaths.free path hpath).1 (hsame ▸ h)
    exact beq_eq_false_iff_ne.mpr hother

/-- A module with a path of several segments is looked for. -/
theorem watches_module (hpaths : paths.Apart) {path : String} {use : Use} (h : path ∈ paths.modules)
    (huse : moduleUse? path = some use) :
    Watches paths fun mention => mention.2 && mention.1 == localName path where
  watched mention hmention := by
    obtain ⟨hcolons, hname⟩ := Bool.and_eq_true_iff.mp hmention
    rw [eq_of_beq hname]
    exact .inr ⟨hcolons, List.mem_map.mpr ⟨path, h, rfl⟩, (hpaths.free path h).2⟩
  symbols symbol hsymbol := by
    have hother : symbol ≠ localName path := fun hsame => (hpaths.free path h).1 (hsame ▸ hsymbol)
    exact (beq_eq_false_iff_ne.mpr hother).symm
  modules other hother hnone := beq_eq_false_iff_ne.mpr fun hsame => by
    rw [hpaths.distinct other hother path h hsame, huse] at hnone
    cases hnone

namespace ModulePaths.Offers

variable (hpaths : paths.Apart) {use : Use} (h : paths.Offers use)
include hpaths h

theorem isWord : IsWord use.symbol := by
  cases h with
  | @module path _ hmodule huse => exact symbol_moduleUse huse ▸ hpaths.words path hmodule
  | @symbol name hsymbol =>
      have hwords : ∀ symbol ∈ runtimeSymbols, IsWord symbol := by decide
      exact hwords name hsymbol
  | other hname _ => exact hname.1

/-- Nothing is imported from the path of a symbol of the runtime. -/
theorem not_mem_words {symbol : String} (hsymbol : symbol ∈ runtimeSymbols) : symbol ∉ words use.path := by
  have hbreak : IsBreak "::" := checks_of rfl rfl
  have hfree : ∀ {path}, Avoids runtimeSymbols path → symbol ∉ words path := by
    intro path hpath hmem
    obtain ⟨mention, hmention, hname⟩ := List.mem_map.mp hmem
    exact hpath mention hmention (hname ▸ hsymbol)
  cases h with
  | @module path _ hmodule huse =>
      intro hmem
      refine hfree (hpaths.avoids path (List.mem_cons_of_mem _ hmodule)) ?_
      rw [path_moduleUse huse, String.append_assoc, words_break hbreak]
      exact List.mem_append_left _ hmem
  | symbol _ => exact hfree (hpaths.avoids paths.runtime List.mem_cons_self)
  | other _ hpath => exact hfree hpath

/-- Symbols of the runtime are imported from there only. -/
theorem eq_ofRuntime (hsymbol : use.symbol ∈ runtimeSymbols) : use = paths.ofRuntime use.symbol := by
  cases h with
  | @module path _ hmodule huse =>
      exact absurd (symbol_moduleUse huse ▸ hsymbol) (hpaths.free path hmodule).1
  | symbol _ => rfl
  | other hname _ => exact absurd (List.mem_append_left _ hsymbol) hname.2

/-- Local names of modules are imported as these only. -/
theorem eq_module {path : String} {other : Use} (hpath : path ∈ paths.modules)
    (hother : moduleUse? path = some other) (hname : use.symbol = localName path) : use = other := by
  cases h with
  | @module path' _ hmodule huse =>
      rw [symbol_moduleUse huse] at hname
      rw [hpaths.distinct path' hmodule path hpath hname, hother] at huse
      exact (Option.some.inj huse).symm
  | @symbol name hsymbol => exact absurd (hname ▸ hsymbol) (hpaths.free path hpath).1
  | other hfree _ =>
      exact absurd (List.mem_append_right _ (hname ▸ List.mem_map.mpr ⟨path, hpath, rfl⟩)) hfree.2

end ModulePaths.Offers

/-! ## Files -/

/-- Imports are complete and minimal: a symbol of the runtime is listed once if it is a word of the declarations,
and not at all otherwise; a module with a path of several segments is imported if and only if its local name stands
before a double colon in the declarations. If no path has a line break, one of the lines lists it then, and none does
otherwise. -/
structure SourceFile.ImportsExactly (paths : ModulePaths) (file : SourceFile) : Prop where
  symbols : ∀ symbol ∈ runtimeSymbols, (words file.chunk.imports.text).count symbol =
    if symbol ∈ words file.chunk.text then 1 else 0
  modules : ∀ path ∈ paths.modules, ∀ use, moduleUse? path = some use →
    (use ∈ file.chunk.imports.uses ↔ (localName path, true) ∈ mentions file.chunk.text)
  moduleLines : (∀ use ∈ file.chunk.uses, Text.OneLine use.path) →
    ∀ path ∈ paths.modules, ∀ use, moduleUse? path = some use →
    ((∃ symbols, (∀ symbol ∈ symbols, IsWord symbol) ∧ use.symbol ∈ symbols ∧
        (Imports.statement use.path symbols).toList ∈ Text.lines file.chunk.imports.text) ↔
      (localName path, true) ∈ mentions file.chunk.text)

namespace Generation

/-- All that files are made of says nothing about the runtime or modules, and every service has methods. -/
structure Plain (run : Generation) (plans : List FilePlan) : Prop where
  paths : run.paths.Apart
  services : ∀ plan ∈ plans, ∀ service ∈ plan.services,
    service.Plain run.paths.watched ∧ service.methods ≠ []
  routes : ∀ route ∈ run.routes, route.Plain run.paths.watched run.request

variable {run : Generation} {plans : List FilePlan} {file : SourceFile} (h : run.Plain plans)
  (hfile : file ∈ run.filesOf plans)
include h hfile

theorem offers_file : ∀ use ∈ file.chunk.uses, run.paths.Offers use := by
  obtain ⟨plan, hplan, head, hhead, rfl⟩ := run.exists_plan hfile
  intro use huse
  rcases run.mem_uses_fileOf.mp huse with huse | ⟨part, hpart, huse⟩
  · rcases hhead with rfl | rfl
    · exact RouteTable.offers_chunk _ _ _ use huse
    · cases huse
  · obtain ⟨service, hservice, hform⟩ := run.mem_parts.mp hpart
    have hplain := (h.services plan hplan service hservice).1
    -- Only server code has something before the methods of a service, and only tests have something after them.
    rcases hform with rfl | ⟨method, hmethod, rfl⟩ | rfl
    · cases hmode : run.mode <;> rw [hmode] at huse
      case server => exact Handler.offers_backendTrait service use huse
      all_goals cases huse
    · cases hmode : run.mode <;> rw [hmode] at huse
      case server => exact Handler.offers_chunk method use huse
      case api => exact Wrapper.offers_chunk h.paths (hplain.methods method hmethod) use huse
      case client => exact Binding.offers_chunk method use huse
      case test => exact PermissionTest.offers_uses use huse
      case testHelper => exact TestHelper.offers_chunk method use huse
    · cases hmode : run.mode <;> rw [hmode] at huse
      case test =>
        simp only [Mode.serviceTail, Chunk.concat_uses, List.mem_flatMap, List.mem_map] at huse
        obtain ⟨-, ⟨tests, -, rfl⟩, huse⟩ := huse
        exact PermissionTest.offers_uses use huse
      all_goals cases huse

/-- What a file refers to is what it imports. -/
theorem refersTo_file {p : Mention → Bool} (hw : Watches run.paths p) :
    file.chunk.refersTo p = file.chunk.bringsIn p := by
  obtain ⟨plan, hplan, head, hhead, rfl⟩ := run.exists_plan hfile
  have htable : head.refersTo p = head.bringsIn p := by
    rcases hhead with rfl | rfl
    · exact RouteTable.refersTo_chunk hw h.routes
    · rfl
  have hservices := Chunk.any_refersTo_map
    (run.mode.serviceChunk run.request (InputIndex.ofRequest run.request) run.paths) fun service hservice =>
      have hplain := h.services plan hplan service hservice
      run.mode.refersTo_serviceChunk h.paths hw run.request (InputIndex.ofRequest run.request) hplain.1 hplain.2
  rw [fileOf, Chunk.refersTo_append _ hw.ignores, Chunk.bringsIn_append, htable, servicesChunk,
    Chunk.refersTo_concat hw.ignores, Chunk.bringsIn_concat, hservices]

/-- A module is imported if and only if its local name stands before a double colon in the declarations. -/
theorem imported_iff {path : String} (hpath : path ∈ run.paths.modules) {use : Use}
    (huse : moduleUse? path = some use) :
    use ∈ file.chunk.imports.uses ↔ (localName path, true) ∈ mentions file.chunk.text := by
  have hoffers := offers_file h hfile
  have hreferred := refersTo_file h hfile (watches_module h.paths hpath huse)
  rw [Chunk.refersTo, hits, Chunk.bringsIn, Bool.eq_iff_iff] at hreferred
  simp only [List.any_eq_true, Bool.and_eq_true, Bool.true_and, beq_iff_eq] at hreferred
  have himported : use ∈ file.chunk.imports.uses ↔ ∃ other ∈ file.chunk.uses, other.symbol = localName path := by
    refine Imports.mem_uses_recordAll.trans ⟨fun hmem => ⟨use, hmem, symbol_moduleUse huse⟩, ?_⟩
    rintro ⟨other, hother, hname⟩
    exact (hoffers other hother).eq_module h.paths hpath huse hname ▸ hother
  refine himported.trans (hreferred.symm.trans ⟨?_, fun hmem => ⟨_, hmem, rfl, rfl⟩⟩)
  rintro ⟨⟨word, colons⟩, hmention, hcolons, hname⟩
  obtain rfl : colons = true := hcolons
  obtain rfl : word = localName path := hname
  exact hmention

/-- **Imports are complete and minimal.** For every mode and all services with methods, below the route table or
not: if nothing that the file is made of says anything about the runtime or modules by chance, the symbols of the
runtime and the modules that are imported are those that the declarations refer to. -/
theorem imports_exactly : file.ImportsExactly run.paths := by
  have hoffers := offers_file h hfile
  refine ⟨fun symbol hsymbol => ?_, fun path hpath use huse => imported_iff h hfile hpath huse,
    fun hlines path hpath use huse => ?_⟩
  · have hreferred := refersTo_file h hfile (watches_symbol h.paths hsymbol)
    -- What has the name of a symbol of the runtime is imported from there, so the name tells whether it is.
    have honly : ∀ use ∈ file.chunk.uses, use.symbol = symbol → use = run.paths.ofRuntime symbol := by
      rintro use huse rfl
      exact (hoffers use huse).eq_ofRuntime h.paths hsymbol
    have hbody : symbol ∈ words file.chunk.text ↔ run.paths.ofRuntime symbol ∈ file.chunk.uses := by
      rw [Chunk.refersTo, hits, Chunk.bringsIn, Bool.eq_iff_iff] at hreferred
      simp only [List.any_eq_true, beq_iff_eq] at hreferred
      refine List.mem_map.trans (hreferred.trans ⟨?_, fun hmem => ⟨_, hmem, rfl⟩⟩)
      rintro ⟨use, huse, hname⟩
      exact honly use huse hname ▸ huse
    have hkeyword : ∀ symbol ∈ runtimeSymbols, symbol ≠ "use" := by decide
    have hcount : (words file.chunk.imports.text).count symbol =
        if run.paths.ofRuntime symbol ∈ file.chunk.uses then 1 else 0 :=
      Imports.count_words_text (fun use huse => (hoffers use huse).isWord h.paths) (hkeyword symbol hsymbol)
        (fun use huse => (hoffers use huse).not_mem_words h.paths hsymbol) honly
    exact hcount.trans (if_congr hbody.symm rfl rfl)
  · have hwords : ∀ use ∈ file.chunk.uses, Text.OneLine use.path ∧ IsWord use.symbol := fun use huse =>
      ⟨hlines use huse, (hoffers use huse).isWord h.paths⟩
    exact (Imports.mem_uses_iff hwords).symm.trans (imported_iff h hfile hpath huse)

end Generation

/-- What is planned for a request where no wrapper is claimed before; nothing where it is refused. -/
def plannedFiles (request : Request) : List FilePlan :=
  (((⟨request, .server, .standard⟩ : Generation).plan .empty).1.toOption).getD []

/-- The request for the widget service alone. -/
def widgetRequest : Request := ⟨[Widgets.widgetFile], [], none⟩

theorem imports_exactly_widgets : (plannedFiles widgetRequest).length = 1 ∧ ∀ mode,
    (⟨widgetRequest, mode, .standard⟩ : Generation).Plain (plannedFiles widgetRequest) ∧
      ∀ file ∈ (⟨widgetRequest, mode, .standard⟩ : Generation).filesOf (plannedFiles widgetRequest),
        (∀ use ∈ file.chunk.uses, Text.OneLine use.path) ∧ file.ImportsExactly .standard := by
  have hpaths : ModulePaths.standard.Apart := by decide +kernel
  have hservices : ∀ plan ∈ plannedFiles widgetRequest, ∀ service ∈ plan.services,
      service.Plain ModulePaths.standard.watched ∧ service.methods ≠ [] := by decide +kernel
  have hroutes : ∀ route ∈ Route.ofRequest widgetRequest,
      route.Plain ModulePaths.standard.watched widgetRequest := by decide +kernel
  have hplain : ∀ mode, (⟨widgetRequest, mode, .standard⟩ : Generation).Plain (plannedFiles widgetRequest) :=
    fun mode => ⟨hpaths, hservices, hroutes⟩
  have hlines : ∀ mode, ∀ file ∈ (⟨widgetRequest, mode, .standard⟩ : Generation).filesOf (plannedFiles widgetRequest),
      ∀ use ∈ file.chunk.uses, Text.OneLine use.path := by
    intro mode
    cases mode <;> decide +kernel
  exact ⟨by decide +kernel, fun mode => ⟨hplain mode, fun file hfile =>
    ⟨hlines mode file hfile, Generation.imports_exactly (hplain mode) hfile⟩⟩⟩

/-- A service with a method whose input is called like the second half of a symbol of the runtime. -/
def contextService : ServiceDecl where
  name := "ContextApi"
  methods := [Widgets.guardedMethod "SetContext" "Context" "Result" "context,ActionManage," false]

/-- The request for the service. -/
def contextRequest : Request := ⟨[⟨"context.proto", [contextService], []⟩], [], none⟩

/-- A run over it with two modules of the same local name. -/
def contextRun : Generation :=
  ⟨contextRequest, .client, { ModulePaths.standard with testHelpers := "crate::tools::ormapi" }⟩

/-- No declared name is a symbol of the runtime or a module. Still, the wrapper of the input is called like a symbol
of the runtime, which is not imported; and the module of wrappers that is referred to has the local name of the
module of test helpers, which is not imported. -/
theorem context_not_imported :
    (∀ declared ∈ contextRequest.gatewayMethods,
      IsFree contextRun.paths.watched declared.1.moduleName ∧ IsFree contextRun.paths.watched declared.2.1.name ∧
        IsFree contextRun.paths.watched declared.2.2.name ∧
        IsFree contextRun.paths.watched declared.2.2.inputType ∧
        IsFree contextRun.paths.watched declared.2.2.outputType ∧
        ∀ text ∈ declared.2.2.authorization, Avoids contextRun.paths.watched text) ∧
      (contextRun.filesOf (plannedFiles contextRequest)).length = 1 ∧
      moduleUse? contextRun.paths.testHelpers = some ⟨"crate::tools", "ormapi"⟩ ∧
      ∀ file ∈ contextRun.filesOf (plannedFiles contextRequest),
        "RegionContext" ∈ words file.chunk.text ∧ "RegionContext" ∉ words file.chunk.imports.text ∧
          ("ormapi", true) ∈ mentions file.chunk.text ∧ ⟨"crate::tools", "ormapi"⟩ ∉ file.chunk.imports.uses := by
  have hnames : Ignores fun mention => mention.1 == "RegionContext" := by unfold Ignores; decide
  have hmodules : Ignores fun mention => mention == ("ormapi", true) := by unfold Ignores; decide
  -- The words of the whole text are those of what stands in the declarations, which is short.
  have hreferred : ∀ file ∈ contextRun.filesOf (plannedFiles contextRequest),
      (file.chunk.items.any fun item => item.leaves.any (hits fun mention => mention.1 == "RegionContext")) = true ∧
        (file.chunk.items.any fun item => item.leaves.any (hits fun mention => mention == ("ormapi", true))) = true ∧
        "RegionContext" ∉ words file.chunk.imports.text ∧
        ⟨"crate::tools", "ormapi"⟩ ∉ file.chunk.imports.uses := by decide +kernel
  refine ⟨by decide +kernel, by decide +kernel, by decide +kernel, fun file hfile => ?_⟩
  obtain ⟨hname, hmodule, hsymbols, huses⟩ := hreferred file hfile
  rw [← Chunk.refersTo_eq _ hnames, Chunk.refersTo, hits, List.any_eq_true] at hname
  rw [← Chunk.refersTo_eq _ hmodules, Chunk.refersTo, hits, List.any_eq_true] at hmodule
  obtain ⟨mention, hmention, hsame⟩ := hname
  obtain ⟨other, hother, hequal⟩ := hmodule
  exact ⟨List.mem_map.mpr ⟨mention, hmention, eq_of_beq hsame⟩, hsymbols, eq_of_beq hequal ▸ hother, huses⟩

end RegionGateway
