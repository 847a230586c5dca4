import RegionGateway.Proofs.Interface.FieldChains
import RegionGateway.Proofs.Output.RoutingLines
import RegionGateway.Widgets.Interface

/-!
# Comments of routes

The comments of a route hold names and the summary of its method, which is free text. If the names have no
line breaks, no comment has one (`oneLine_documentation`), so that each of them is one line of the route table
and begins with the mark of a comment (`lines_chunk`). The summary is split and trimmed, but nothing
of it is lost except white space (`solid_summaryLines`). Together: `comments_keep_summary`.
-/

namespace RegionGateway

namespace Text

/-! ## Upper case -/

theorem ofNat_ne {n : Nat} {c : Char} (hzero : c.toNat ≠ 0) (hn : c.toNat < n) : Char.ofNat n ≠ c := by
  rintro rfl
  by_cases hvalid : n.isValidChar
  · have hvalue : Char.ofNat n = Char.ofNatAux n hvalid := dif_pos hvalid
    rw [hvalue] at hn
    exact Nat.lt_irrefl n hn
  · have hvalue : Char.ofNat n = '\x00' := dif_neg hvalid
    rw [hvalue] at hzero
    exact hzero rfl

/-- Where one character becomes another in upper case, that one is no control character. -/
theorem le_image_of_toUpperRuns : ∀ run ∈ toUpperRuns, 14 ≤ run.2.2.2 := by decide +kernel

theorem no_break_toUpperSeveral :
    ∀ entry ∈ toUpperSeveral, ∀ n ∈ entry.2, Char.ofNat n ≠ '\n' ∧ Char.ofNat n ≠ '\r' := by decide +kernel

theorem le_shift_toUpperRuns {n : Nat} (h : 14 ≤ n) : 14 ≤ shift toUpperRuns n := by
  unfold shift
  split
  · next hrun => exact Nat.le_trans (le_image_of_toUpperRuns _ (List.mem_of_find?_eq_some hrun)) (Nat.le_add_right _ _)
  · exact h

/-- Upper case brings no line break. -/
theorem no_break_upperChar {c : Char} (h : c ≠ '\n' ∧ c ≠ '\r') :
    ∀ d ∈ upperChar c, d ≠ '\n' ∧ d ≠ '\r' := by
  intro d hd
  unfold upperChar at hd
  split at hd
  · next hascii =>
      have hall : ∀ n < 0x80, Char.ofNat n ≠ '\n' ∧ Char.ofNat n ≠ '\r' →
          (Char.ofNat n).toUpper ≠ '\n' ∧ (Char.ofNat n).toUpper ≠ '\r' := by decide +kernel
      have hupper := hall c.toNat hascii
      rw [Char.ofNat_toNat] at hupper
      rw [List.mem_singleton.mp hd]
      exact hupper h
  · next hbeyond =>
      split at hd
      · next image himage =>
          obtain ⟨n, hn, rfl⟩ := List.mem_map.mp hd
          obtain ⟨before, after, hentries, -⟩ := List.lookup_eq_some_iff.mp himage
          have hmem : (c.toNat, image) ∈ toUpperSeveral := hentries ▸ List.mem_append_right _ List.mem_cons_self
          exact no_break_toUpperSeveral _ hmem n hn
      · have hle := le_shift_toUpperRuns (n := c.toNat) (by omega)
        rw [List.mem_singleton.mp hd]
        exact ⟨ofNat_ne (by decide) (Nat.lt_of_lt_of_le (by decide) hle),
          ofNat_ne (by decide) (Nat.lt_of_lt_of_le (by decide) hle)⟩

/-! ## White space -/

/-- The characters of a text that are no white space. -/
def solid (s : String) : List Char := s.toList.filter fun c => !isBlank c

theorem solid_append (s t : String) : solid (s ++ t) = solid s ++ solid t := by
  rw [solid, String.toList_append, List.filter_append]
  rfl

theorem solid_join (parts : List String) : solid (join "" parts) = parts.flatMap solid := by
  rw [solid, toList_join_empty, List.filter_flatMap]
  rfl

theorem filter_eq_nil_of_blank {cs : List Char} (h : ∀ c ∈ cs, isBlank c = true) :
    (cs.filter fun c => !isBlank c) = [] :=
  List.filter_eq_nil_iff.mpr fun c hc => by simp [h c hc]

theorem solid_trim (s : String) : solid (trim s) = solid s := by
  obtain ⟨front, back, hs, hfront, hback⟩ := exists_trimChars s.toList
  have hsolid : solid s = (front ++ trimChars s.toList ++ back).filter fun c => !isBlank c :=
    congrArg (List.filter _) hs
  rw [hsolid, List.filter_append, List.filter_append, filter_eq_nil_of_blank hfront,
    filter_eq_nil_of_blank hback, List.nil_append, List.append_nil, solid, trim, String.toList_ofList]

theorem toList_trim_subset (s : String) : (trim s).toList ⊆ s.toList := by
  obtain ⟨front, back, hs, -, -⟩ := exists_trimChars s.toList
  rw [trim, String.toList_ofList]
  intro c hc
  rw [hs]
  exact List.mem_append_left _ (List.mem_append_right _ hc)

theorem OneLine.trim {s : String} (h : OneLine s) : OneLine (Text.trim s) :=
  fun c hc => h c (toList_trim_subset s hc)

/-- A text begins with its first solid character, once it is trimmed. -/
theorem trim_eq_empty_iff {s : String} : trim s = "" ↔ solid s = [] := by
  constructor
  · intro h
    rw [← solid_trim, h]
    rfl
  · intro h
    have hblank : ∀ c ∈ s.toList, isBlank c = true := fun c hc => by
      simpa using List.filter_eq_nil_iff.mp h c hc
    have hfront : s.toList.dropWhile isBlank = [] := List.dropWhile_eq_nil_iff.mpr hblank
    rw [trim, trimChars, hfront]
    rfl

end Text

namespace Route

open Text

/-! ## Summaries -/

/-- A summary on one line: line breaks count as blanks, and there is no white space at its ends. -/
def flattened (summary : String) : String :=
  trim (String.ofList (summary.toList.map fun c => if c = '\r' ∨ c = '\n' then ' ' else c))

theorem oneLine_flattened (summary : String) : OneLine (flattened summary) := by
  refine OneLine.trim fun c hc => ?_
  rw [String.toList_ofList] at hc
  obtain ⟨d, -, rfl⟩ := List.mem_map.mp hc
  split
  · decide
  · next hd => exact ⟨fun hn => hd (.inr hn), fun hr => hd (.inl hr)⟩

theorem solid_flattened (summary : String) : solid (flattened summary) = solid summary := by
  rw [flattened, solid_trim, solid, String.toList_ofList, solid]
  induction summary.toList with
  | nil => rfl
  | cons c cs ih =>
      rw [List.map_cons, List.filter_cons, List.filter_cons, ih]
      by_cases hc : c = '\r' ∨ c = '\n'
      · -- a line break is white space, and so is the blank instead of it
        rw [if_pos hc]
        rcases hc with rfl | rfl <;> rfl
      · rw [if_neg hc]

theorem flattened_eq_empty_iff {summary : String} : flattened summary = "" ↔ solid summary = [] := by
  rw [← solid_flattened, flattened, trim_eq_empty_iff, solid_trim]

/-- Neither the lines of a summary nor the blanks between them hold more or less than it. -/
inductive Split (text : String) : List String → Prop
  | blank : text = "" → Split text []
  | phrase : text ≠ "" → '.' ∉ text.toList → Split text [text ++ "."]
  | sentence {first rest : String} : text.toList = first.toList ++ '.' :: rest.toList →
      solid rest = [] → Split text [trim first ++ "."]
  | sentences {first rest : String} : text.toList = first.toList ++ '.' :: rest.toList →
      Split text [trim first ++ ".", trim rest]

theorem split_summaryLines (summary : String) : Split (flattened summary) (summaryLines summary) := by
  unfold flattened summaryLines
  dsimp only
  generalize trim (String.ofList _) = text
  split
  · next hempty => exact .blank hempty
  · next hempty =>
      split
      · next hcut => exact .phrase hempty (not_mem_of_cut? hcut)
      · next first rest hcut =>
          have htext := toList_of_cut? hcut
          split
          · next hrest => exact .sentence htext (trim_eq_empty_iff.mp hrest)
          · exact .sentences htext

theorem Split.oneLine {text : String} {lines : List String} (h : Split text lines) (htext : OneLine text) :
    ∀ line ∈ lines, OneLine line := by
  have hperiod : OneLine "." := by decide
  have hparts {first rest : String} (hsplit : text.toList = first.toList ++ '.' :: rest.toList) :
      OneLine (trim first ++ ".") ∧ OneLine (trim rest) := by
    unfold OneLine at htext
    rw [hsplit] at htext
    obtain ⟨hfirst, hrest⟩ := List.forall_mem_append.mp htext
    exact ⟨(OneLine.trim hfirst).append hperiod, OneLine.trim fun c hc => hrest c (List.mem_cons_of_mem _ hc)⟩
  cases h with
  | blank => exact List.forall_mem_nil _
  | phrase => exact List.forall_mem_singleton.mpr (htext.append hperiod)
  | sentence hsplit => exact List.forall_mem_singleton.mpr (hparts hsplit).1
  | sentences hsplit =>
      exact List.forall_mem_cons.mpr ⟨(hparts hsplit).1, List.forall_mem_singleton.mpr (hparts hsplit).2⟩

/-- A period is put behind a text that is not empty and has none. -/
theorem Split.solid_join {text : String} {lines : List String} (h : Split text lines) :
    solid (join "" lines) =
      solid text ++ if text ≠ "" ∧ '.' ∉ text.toList then ['.'] else [] := by
  have hperiod : solid "." = ['.'] := by decide
  have hparts {first rest : String} (hsplit : text.toList = first.toList ++ '.' :: rest.toList) :
      solid text = solid first ++ '.' :: solid rest ∧ '.' ∈ text.toList := by
    refine ⟨?_, by simp [hsplit]⟩
    rw [solid, hsplit, List.filter_append, List.filter_cons_of_pos (by decide)]
    rfl
  rw [Text.solid_join]
  cases h with
  | blank hempty => simp [hempty, solid]
  | phrase hne hnone => simp [hne, hnone, solid_append, hperiod]
  | sentence hsplit hrest =>
      obtain ⟨hsolid, hmem⟩ := hparts hsplit
      simp [hsolid, hmem, hrest, solid_append, solid_trim, hperiod]
  | sentences hsplit =>
      obtain ⟨hsolid, hmem⟩ := hparts hsplit
      simp [hsolid, hmem, solid_append, solid_trim, hperiod]

/-- The lines of a summary hold all of it but white space, and a period if it has none. -/
theorem solid_summaryLines (summary : String) : solid (join "" (summaryLines summary)) =
    solid summary ++ if solid summary ≠ [] ∧ '.' ∉ summary.toList then ['.'] else [] := by
  have hperiod : '.' ∈ (flattened summary).toList ↔ '.' ∈ summary.toList := by
    have hsolid : ∀ s : String, '.' ∈ s.toList ↔ '.' ∈ solid s := fun s => by
      rw [solid, List.mem_filter]
      exact (and_iff_left (by decide)).symm
    rw [hsolid, solid_flattened, ← hsolid]
  rw [(split_summaryLines summary).solid_join, solid_flattened]
  simp only [ne_eq, flattened_eq_empty_iff, hperiod]

/-! ## The lines of a comment -/

/-- The first line of a comment, which says what is served where. -/
def heading (route : Route) : String :=
  "swagger:route POST " ++ route.path ++ " " ++ route.inputType ++ " " ++ route.method

/-- The sections after the summary. -/
def sections (request : Request) (route : Route) : List String :=
  (if startsWith "Update" route.method then updateLines request route else []) ++ responseLines

theorem documentation_eq (request : Request) (route : Route) : route.documentation request =
    route.heading :: (summaryLines (route.summary.getD "") ++ route.sections request) := by
  unfold documentation heading sections
  rw [List.append_assoc, List.append_assoc, List.singleton_append]

/-- No name that a comment of a route may show has a line break. -/
structure NamedOnOneLine (request : Request) (route : Route) : Prop where
  method : OneLine route.method
  inputType : OneLine route.inputType
  fields : ∀ message ∈ request.messages, ∀ field ∈ message.fields, OneLine field.name

theorem oneLine_pascalCase {name : String} (h : OneLine name) : OneLine (Rust.pascalCase name) := by
  refine oneLine_join (by decide) (List.forall_mem_map.mpr fun part hpart => ?_)
  have hchars : ∀ c ∈ part.toList, c ≠ '\n' ∧ c ≠ '\r' := by
    obtain ⟨chars, hchars, rfl⟩ := List.mem_map.mp hpart
    rw [String.toList_ofList]
    exact fun c hc => h c (mem_of_mem_splitChars hchars hc)
  unfold Rust.capitalize
  split
  · decide
  · next c rest hcs =>
      rw [hcs] at hchars
      obtain ⟨hfirst, hrest⟩ := List.forall_mem_cons.mp hchars
      unfold OneLine
      rw [String.toList_ofList]
      exact List.forall_mem_append.mpr ⟨no_break_upperChar hfirst, hrest⟩

theorem oneLine_number (n : Nat) : OneLine (String.ofList (Nat.toDigits 10 n)) := by
  intro c hc
  rw [String.toList_ofList] at hc
  have hdigit : c.isDigit = true := Nat.isDigit_of_mem_toDigits (by decide) (by decide) hc
  constructor
  · rintro rfl
    cases hdigit
  · rintro rfl
    cases hdigit

/-- What is listed of a field are its names in Pascal case and its numbers. -/
theorem oneLine_listing {request : Request} {message : MessageDecl} (hmessage : message ∈ request.messages)
    (h : ∀ message ∈ request.messages, ∀ field ∈ message.fields, OneLine field.name) :
    ∀ path ∈ FieldPath.all request message, OneLine path.listing := by
  rw [FieldPath.all_eq]
  refine List.forall_mem_map.mpr fun chain hchain => ?_
  have hnames : ∀ place ∈ chain, OneLine place.field.name :=
    (FieldPath.mem_chains.mp hchain).forall_field (p := fun field => OneLine field.name)
      (List.forall_mem_cons.mpr ⟨h message hmessage, h⟩)
  refine ((oneLine_join (by decide) ?_).append (by decide)).append (oneLine_join (by decide) ?_)
  · exact List.forall_mem_map.mpr fun place hplace => oneLine_pascalCase (hnames place hplace)
  · exact List.forall_mem_map.mpr fun place _ => oneLine_number _

section

variable {request : Request} {route : Route} (h : NamedOnOneLine request route)
include h

theorem oneLine_heading : OneLine route.heading := by
  have hpath : OneLine route.path := OneLine.append (by decide) h.method
  have hblank : OneLine " " := by decide
  have hstart : OneLine ("swagger:route POST " ++ route.path) := OneLine.append (by decide) hpath
  exact (((hstart.append hblank).append h.inputType).append hblank).append h.method

theorem oneLine_sections : ∀ line ∈ route.sections request, OneLine line := by
  have hresponses : ∀ line ∈ responseLines, OneLine line := by decide
  refine List.forall_mem_append.mpr ⟨?_, hresponses⟩
  split
  · have hfence : OneLine "```" := by decide
    have hsentence : OneLine ("The following values should be added to `" ++ route.inputType ++
        ".fields` field array to specify which fields will be updated.") :=
      (OneLine.append (by decide) h.inputType).append (by decide)
    refine List.forall_mem_append.mpr ⟨List.forall_mem_append.mpr ⟨?_, ?_⟩, List.forall_mem_singleton.mpr hfence⟩
    · exact List.forall_mem_cons.mpr ⟨hsentence, List.forall_mem_singleton.mpr hfence⟩
    · cases hmessage : request.message? route.inputType with
      | none => exact List.forall_mem_nil _
      | some message =>
          exact List.forall_mem_map.mpr (oneLine_listing (Request.message?_mem hmessage) h.fields)
  · exact List.forall_mem_nil _

theorem oneLine_documentation : ∀ line ∈ route.documentation request, OneLine line := by
  rw [documentation_eq]
  have hsummary := (split_summaryLines (route.summary.getD "")).oneLine (oneLine_flattened _)
  exact List.forall_mem_cons.mpr
    ⟨oneLine_heading h, List.forall_mem_append.mpr ⟨hsummary, oneLine_sections h⟩⟩

end

end Route

namespace RouteTable

open Rust Text

/-! ## Comments in the table -/

/-- A line of a comment as the table shows it, without its end. -/
def comment (line : String) : List Char := "    //".toList ++ if line = "" then [] else ' ' :: line.toList

theorem toList_commentLines (request : Request) (route : Route) :
    (route.commentLines request).map String.toList = (route.documentation request).map comment := by
  rw [Route.commentLines, List.map_map]
  refine List.map_congr_left fun line _ => ?_
  rw [Function.comp_apply, comment]
  split
  · exact (List.append_nil _).symm
  · have hmark : "    // ".toList = "    //".toList ++ [' '] := by decide
    rw [String.toList_append, hmark, List.append_assoc]
    rfl

theorem oneLine_commentLines {request : Request} {route : Route} (h : route.NamedOnOneLine request) :
    ∀ line ∈ route.commentLines request, OneLine line := by
  refine List.forall_mem_map.mpr fun line hline => ?_
  split
  · decide
  · exact OneLine.append (by decide) (Route.oneLine_documentation h line hline)

/-- The comments of a route stand in the text of the table. -/
theorem stands_commentLines {mode : Mode} (hmode : mode.listsRoutes = true) (paths : ModulePaths) (request : Request)
    {routes : List Route} {route : Route} (hroute : route ∈ routes) :
    Stands (block (route.commentLines request)) (chunk mode paths request routes).text := by
  obtain ⟨front, back, rfl⟩ := List.append_of_mem hroute
  have hrows : tableLines request (front ++ route :: back) =
      ["/// Every controller route served by the gateway.", heading] ++
        (front.flatMap fun route => route.commentLines request ++ route.rowLines) ++ route.commentLines request ++
        (route.rowLines ++ (back.flatMap fun route => route.commentLines request ++ route.rowLines) ++ ["];"]) := by
    simp only [tableLines, List.flatMap_append, List.flatMap_cons, List.append_assoc]
  have htable : Stands (block (route.commentLines request)) (table request (front ++ route :: back)).lines := by
    rw [table_lines, hrows]
    exact stands_block _ _ _
  have hchunk : ∃ more, (chunk mode paths request (front ++ route :: back)).text =
      (table request (front ++ route :: back)).lines ++ ("\n" ++ more) := by
    rw [chunk, if_neg (by simp [hmode])]
    refine ⟨join "" ((if mode.dispatches then
      [Item.function (dispatcher (front ++ route :: back))] else []).map Item.text), ?_⟩
    rw [← String.append_assoc]
    exact join_empty_append [_] _
  obtain ⟨more, hmore⟩ := hchunk
  rw [hmore]
  exact htable.above _

theorem lines_chunk {mode : Mode} (hmode : mode.listsRoutes = true) (paths : ModulePaths) {request : Request}
    {routes : List Route} {route : Route} (hroute : route ∈ routes) (h : route.NamedOnOneLine request) :
    ∃ before after, lines (chunk mode paths request routes).text =
      before ++ (route.documentation request).map comment ++ after := by
  rw [← toList_commentLines, ← lines_block (oneLine_commentLines h)]
  exact (stands_commentLines hmode paths request hroute).exists_lines (endsLine_block _)

end RouteTable

namespace Route

open Text

/-- What can be said of the comment lines of a route. -/
structure Commented (request : Request) (route : Route) : Prop where
  /-- None of them has a line break, -/
  oneLine : ∀ line ∈ route.documentation request, OneLine line
  /-- and in every table of routes they are lines of their own, one after the other, -/
  written : ∀ (mode : Mode) (paths : ModulePaths) (routes : List Route), mode.listsRoutes = true →
    route ∈ routes → ∃ before after, lines (RouteTable.chunk mode paths request routes).text =
      before ++ (route.documentation request).map RouteTable.comment ++ after
  /-- which begin with the mark of a comment. -/
  marked : ∀ line ∈ route.documentation request, "    //".toList <+: RouteTable.comment line
  /-- What stands between the first line and the sections after it is the summary, but for white space, with a
  period behind it if there is more than white space and no period. -/
  summary : ∃ summary, route.documentation request = route.heading :: (summary ++ route.sections request) ∧
    solid (join "" summary) = solid (route.summary.getD "") ++
      if solid (route.summary.getD "") ≠ [] ∧ '.' ∉ (route.summary.getD "").toList then ['.'] else []

/-- **Comments of routes stay comments and keep the summary.** If the names that they may show have no line
break, the comment lines of a route have none either, whatever the summary, so that each of them is one line of
the table and begins with the mark of a comment. The lines between the first one and the section after the
summary hold the summary, but for white space, and a period if it is not blank and has none. -/
theorem comments_keep_summary {request : Request} {route : Route} (h : route.NamedOnOneLine request) :
    route.Commented request where
  oneLine := oneLine_documentation h
  written _ paths _ hmode hroute := RouteTable.lines_chunk hmode paths hroute h
  marked _ _ := List.prefix_append _ _
  summary := ⟨_, documentation_eq request route, solid_summaryLines _⟩

/-- An update whose summary has line breaks of both kinds, periods in a row and white space at its ends. -/
def summarized : Route :=
  ⟨"widget", "WidgetApi", "UpdateWidget", "Widget", false,
    some "\n Change a widget... \r\nOnly what\ris\u2003named.\n*/ "⟩

theorem comments_keep_summary_update :
    summarized.NamedOnOneLine Widgets.request ∧ summarized.Commented Widgets.request := by
  have hnames : summarized.NamedOnOneLine Widgets.request :=
    ⟨by decide, by decide, by decide +kernel⟩
  exact ⟨hnames, comments_keep_summary hnames⟩

example : summaryLines "\n Change a widget... \r\nOnly this.\n" = ["Change a widget.", "..   Only this."] := by
  decide +kernel

end Route

end RegionGateway
