import RegionGateway.Proofs.Rust.ImportLines
import RegionGateway.Proofs.Rust.Leaves
import RegionGateway.Proofs.Text.LineStarts

/-!
# The headings of printed declarations and imports

In the text of a declaration, every line but one is indented, a comment, an attribute or the end of a block. So if
nothing that stands in a public declaration has a line break, its text has one heading (`Item.headings_text`), which
says what is declared; private declarations have none. The headings of imports are their lines
(`Imports.headings_text`), and tell what is imported (`Imports.mem_uses_iff`).
-/

namespace RegionGateway.Rust

open Text

/-! ## Parts of lines -/

theorem passes_indent (start : Bool) (depth : Nat) : Passes start (indent depth) (start && depth == 0) := by
  have hscan : ∀ (n : Nat) (start : Bool), scan start (List.replicate n ' ') = some (start && n == 0) := by
    intro n
    induction n with
    | zero => simp [scan]
    | succ n ih =>
        intro start
        have hblank : isMark ' ' = false := by decide
        rw [List.replicate_succ, scan, hblank, Bool.and_false, if_neg Bool.false_ne_true, ih]
        simp
  have hdepth : (4 * depth == 0) = (depth == 0) := by cases depth <;> rfl
  rw [Passes, indent, String.toList_ofList, hscan, hdepth]

/-- The first character of a line in a block is a blank. -/
theorem passes_margin (start : Bool) (depth : Nat) : Passes start (indent (depth + 1)) false := by
  have hindent := passes_indent start (depth + 1)
  rwa [show (start && depth + 1 == 0) = false by simp] at hindent

/-- The text that closes a block does not depend on the depth of the block. -/
theorem passes_close {s block : String} {p q : Bool} (hclose : ∀ margin, Passes margin s q)
    (depth : Nat) (hblock : Passes p block true) : Passes p (block ++ indent depth ++ s) q :=
  (hblock.append (passes_indent true depth)).append (hclose _)

/-! ## Types -/

namespace Ty

mutual

theorem oneLine_text (type : Ty) (h : AllOneLine type.leaves) : OneLine type.text := by
  have hcomma : OneLine ", " := by decide
  cases type with
  | name name => exact h name List.mem_cons_self
  | inModule module name => exact h _ List.mem_cons_self
  | apply head arguments =>
      obtain ⟨hhead, harguments⟩ := List.forall_mem_cons.mp h
      have hjoined := oneLine_join hcomma (oneLine_texts arguments harguments)
      exact ((hhead.append (by decide)).append hjoined).append (by decide)
  | borrowed mutable target =>
      cases mutable with
      | true => exact OneLine.append (by decide) (oneLine_text target h)
      | false => exact OneLine.append (by decide) (oneLine_text target h)
  | dynamic name => exact OneLine.append (by decide) (h name List.mem_cons_self)
  | slice item => exact (OneLine.append (by decide) (oneLine_text item h)).append (by decide)
  | tuple items =>
      have hjoined := oneLine_join hcomma (oneLine_texts items h)
      exact (OneLine.append (by decide) hjoined).append (by decide)

theorem oneLine_texts (types : List Ty) (h : AllOneLine (allLeaves types)) :
    AllOneLine (texts types) := by
  cases types with
  | nil => exact List.forall_mem_nil _
  | cons type types =>
      obtain ⟨htype, htypes⟩ := List.forall_mem_append.mp h
      exact List.forall_mem_cons.mpr ⟨oneLine_text type htype, oneLine_texts types htypes⟩

end

end Ty

/-! ## Expressions -/

/-- A list of texts inside a line. -/
theorem passes_list {parts : List String} (h : ∀ part ∈ parts, Passes false part false) :
    Passes false (Text.join ", " parts) false :=
  passes_join (by decide) h

namespace Expr

mutual

theorem passes_text (depth : Nat) (e : Expr) (h : AllOneLine e.leaves) :
    Passes false (e.text depth) false := by
  cases e with
  | place name => exact (h name List.mem_cons_self).passes
  | literal content =>
      have hcontent := (h content List.mem_cons_self).passes
      exact (Passes.append (by decide) hcontent).inside (by decide)
  | call function arguments =>
      obtain ⟨hfunction, harguments⟩ := List.forall_mem_cons.mp h
      have hlist := passes_list (passes_texts depth arguments harguments)
      exact ((hfunction.passes.inside (by decide)).append hlist).inside (by decide)
  | method object name arguments =>
      obtain ⟨hobject, hrest⟩ := List.forall_mem_append.mp h
      obtain ⟨hname, harguments⟩ := List.forall_mem_cons.mp hrest
      have hlist := passes_list (passes_texts depth arguments harguments)
      have hcallee := ((passes_text depth object hobject).inside (t := ".") (by decide)).inside hname
      exact ((hcallee.inside (by decide)).append hlist).inside (by decide)
  | borrow mutable e =>
      cases mutable with
      | true => exact Passes.append (by decide) (passes_text depth e h)
      | false => exact Passes.append (by decide) (passes_text depth e h)
  | negate e => exact Passes.append (by decide) (passes_text depth e h)
  | either a b | equal a b =>
      obtain ⟨ha, hb⟩ := List.forall_mem_append.mp h
      exact ((passes_text depth a ha).inside (by decide)).append (passes_text depth b hb)
  | propagate e | await e => exact (passes_text depth e h).inside (by decide)
  | awaitBelow e =>
      have hline : Passes false (e.text depth ++ "\n") true := (passes_text depth e h).append (by decide)
      exact passes_close (by decide) depth hline
  | record type fields =>
      obtain ⟨htype, hfields⟩ := List.forall_mem_cons.mp h
      have hhead : Passes false (type ++ " \x7b\n") true := htype.passes.append (by decide)
      exact passes_close (by decide) depth (hhead.append (passes_fieldLines depth fields hfields))
  | pair a b =>
      obtain ⟨ha, hb⟩ := List.forall_mem_append.mp h
      have hfirst : Passes false ("(" ++ a.text depth) false := Passes.append (by decide) (passes_text depth a ha)
      exact ((hfirst.inside (by decide)).append (passes_text depth b hb)).inside (by decide)
  | closure parameter type body =>
      obtain ⟨hparameter, hrest⟩ := List.forall_mem_cons.mp h
      obtain ⟨htype, hbody⟩ := List.forall_mem_append.mp hrest
      have hname : OneLine ("|" ++ parameter ++ ": ") :=
        (OneLine.append (by decide) (oneLine_append.mp hparameter).1).append (by decide)
      have htyped := hname.passes.inside (type.oneLine_text htype)
      have hhead : Passes false ("|" ++ parameter ++ ": " ++ type.text ++ "| \x7b\n") true :=
        htyped.append (by decide)
      have hline := (hhead.append (passes_margin true depth)).append (passes_text (depth + 1) body hbody)
      exact passes_close (by decide) depth (hline.append (by decide))
  | choice subject arms =>
      obtain ⟨hsubject, harms⟩ := List.forall_mem_append.mp h
      have hstart : Passes false ("match " ++ subject.text depth) false :=
        Passes.append (by decide) (passes_text depth subject hsubject)
      have hhead : Passes false ("match " ++ subject.text depth ++ " \x7b\n") true := hstart.append (by decide)
      exact passes_close (by decide) depth (hhead.append (passes_armLines depth arms harms))

theorem passes_texts (depth : Nat) (es : List Expr) (h : AllOneLine (allLeaves es)) :
    ∀ text ∈ texts depth es, Passes false text false := by
  cases es with
  | nil => exact List.forall_mem_nil _
  | cons e es =>
      obtain ⟨he, hes⟩ := List.forall_mem_append.mp h
      exact List.forall_mem_cons.mpr ⟨passes_text depth e he, passes_texts depth es hes⟩

theorem passes_fieldLines (depth : Nat) (fields : List (String × Expr))
    (h : AllOneLine (fieldLeaves fields)) : Passes true (fieldLines (depth + 1) fields) true := by
  cases fields with
  | nil => rfl
  | cons field rest =>
      obtain ⟨hname, hmore⟩ := List.forall_mem_cons.mp h
      obtain ⟨hvalue, hrest⟩ := List.forall_mem_append.mp hmore
      have hlabel := (passes_margin true depth).inside (oneLine_append.mp hname).1
      have hline := (hlabel.inside (t := ": ") (by decide)).append (passes_text (depth + 1) field.2 hvalue)
      exact (hline.append (by decide)).append (passes_fieldLines depth rest hrest)

theorem passes_armLines (depth : Nat) (arms : List (String × Expr))
    (h : AllOneLine (armLeaves arms)) : Passes true (armLines (depth + 1) arms) true := by
  cases arms with
  | nil => rfl
  | cons arm rest =>
      obtain ⟨hpattern, hmore⟩ := List.forall_mem_cons.mp h
      obtain ⟨hvalue, hrest⟩ := List.forall_mem_append.mp hmore
      have hlabel := (passes_margin true depth).inside hpattern
      have hline := (hlabel.inside (t := " => ") (by decide)).append (passes_text (depth + 1) arm.2 hvalue)
      exact (hline.append (by decide)).append (passes_armLines depth rest hrest)

end

end Expr

/-! ## Statements -/

namespace Stmt

/-- The line that opens a block. -/
theorem passes_open {start : Bool} {line : String} (h : Passes start line false) :
    Passes start (line ++ " \x7b\n") true :=
  h.append (by decide)

-- Statements are printed at the start of a line, in blocks, or behind an opening brace on one line.

mutual

/-- A statement at the start of a line is indented. -/
theorem passes_text {start : Bool} {depth : Nat} (hstart : (start && depth == 0) = false) (s : Stmt)
    (h : AllOneLine s.leaves) : Passes start (s.text depth) false := by
  have hindent : Passes start (indent depth) false := hstart ▸ passes_indent start depth
  cases s with
  | bind pattern type e =>
      have hlet := hindent.inside (t := "let ") (by decide)
      cases type with
      | none =>
          obtain ⟨hpattern, he⟩ := List.forall_mem_cons.mp h
          have hbound := ((hlet.inside hpattern).inside (t := "") (by decide)).inside (t := " = ") (by decide)
          exact (hbound.append (e.passes_text depth he)).inside (by decide)
      | some type =>
          obtain ⟨hpattern, hrest⟩ := List.forall_mem_cons.mp h
          obtain ⟨htype, he⟩ := List.forall_mem_append.mp hrest
          have htyped : OneLine (": " ++ type.text) := OneLine.append (by decide) (type.oneLine_text htype)
          have hbound := ((hlet.inside (oneLine_append.mp hpattern).1).inside htyped).inside (t := " = ") (by decide)
          exact (hbound.append (e.passes_text depth he)).inside (by decide)
  | bindElse pattern e otherwise =>
      obtain ⟨hpattern, hrest⟩ := List.forall_mem_cons.mp h
      obtain ⟨he, hotherwise⟩ := List.forall_mem_append.mp hrest
      have hleft := (hindent.inside (t := "let ") (by decide)).inside hpattern
      have hbound := (hleft.inside (t := " = ") (by decide)).append (e.passes_text depth he)
      have hopen := hbound.append (t := " else \x7b\n") (r := true) (by decide)
      exact passes_close (s := "\x7d;") (by decide) depth (hopen.append (passes_lines depth otherwise hotherwise))
  | assign place e =>
      obtain ⟨hplace, he⟩ := List.forall_mem_cons.mp h
      have hleft := (hindent.inside hplace).inside (t := " = ") (by decide)
      exact (hleft.append (e.passes_text depth he)).inside (by decide)
  | run e => exact (hindent.append (e.passes_text depth h)).inside (by decide)
  | value e => exact hindent.append (e.passes_text depth h)
  | giveBack e =>
      exact ((hindent.inside (t := "return ") (by decide)).append (e.passes_text depth h)).inside (by decide)
  | whenTrue condition body otherwise =>
      obtain ⟨hcondition, hrest⟩ := List.forall_mem_append.mp h
      obtain ⟨hbody, hotherwise⟩ := List.forall_mem_append.mp hrest
      have hhead := (hindent.inside (t := "if ") (by decide)).append (condition.passes_text depth hcondition)
      have hthen := (passes_open hhead).append (passes_lines depth body hbody)
      cases otherwise with
      | nil => exact passes_close (by decide) depth hthen
      | cons s otherwise =>
          have helse := passes_close (s := "\x7d else \x7b\n") (q := true) (by decide) depth hthen
          exact passes_close (by decide) depth (helse.append (passes_lines depth (s :: otherwise) hotherwise))
  | whenMatches pattern subject body =>
      obtain ⟨hpattern, hrest⟩ := List.forall_mem_cons.mp h
      obtain ⟨hsubject, hbody⟩ := List.forall_mem_append.mp hrest
      have hleft := (hindent.inside (t := "if let ") (by decide)).inside hpattern
      have hhead := (hleft.inside (t := " = ") (by decide)).append (subject.passes_text depth hsubject)
      exact passes_close (by decide) depth ((passes_open hhead).append (passes_lines depth body hbody))
  | forEach item items body =>
      obtain ⟨hitem, hrest⟩ := List.forall_mem_cons.mp h
      obtain ⟨hitems, hbody⟩ := List.forall_mem_append.mp hrest
      have hleft := (hindent.inside (t := "for ") (by decide)).inside hitem
      have hhead := (hleft.inside (t := " in ") (by decide)).append (items.passes_text depth hitems)
      exact passes_close (by decide) depth ((passes_open hhead).append (passes_lines depth body hbody))

theorem passes_lines (depth : Nat) (statements : List Stmt)
    (h : AllOneLine (allLeaves statements)) : Passes true (lines (depth + 1) statements) true := by
  cases statements with
  | nil => rfl
  | cons s rest =>
      obtain ⟨hs, hrest⟩ := List.forall_mem_append.mp h
      exact ((passes_text (by simp) s hs).append (by decide)).append (passes_lines depth rest hrest)

end

end Stmt

/-! ## Parts of declarations -/

theorem oneLine_parameterText {parameter : String × Ty} (hname : OneLine (parameter.1 ++ ":"))
    (htype : AllOneLine parameter.2.leaves) : OneLine (parameterText parameter) :=
  ((oneLine_append.mp hname).1.append (by decide)).append (parameter.2.oneLine_text htype)

theorem Parameters.forall_oneLine {parameters : Parameters} (h : AllOneLine parameters.leaves) :
    ∀ parameter ∈ parameters, OneLine (parameterText parameter) := by
  intro parameter hparameter
  have hleaves : AllOneLine ((parameter.1 ++ ":") :: parameter.2.leaves) :=
    fun leaf hleaf => h leaf (List.mem_flatMap.mpr ⟨parameter, hparameter, hleaf⟩)
  obtain ⟨hname, htype⟩ := List.forall_mem_cons.mp hleaves
  exact oneLine_parameterText hname htype

/-- Parameters behind the receiver of a method. -/
theorem oneLine_parameters {parameters : Parameters} (h : AllOneLine parameters.leaves) :
    OneLine (Text.join "" (parameters.map fun p => ", " ++ parameterText p)) :=
  oneLine_join (by decide) (List.forall_mem_map.mpr fun parameter hparameter =>
    OneLine.append (by decide) (Parameters.forall_oneLine h parameter hparameter))

theorem oneLine_result {result : Option Ty} (h : AllOneLine (result.toList.flatMap Ty.leaves)) :
    OneLine (result.elim "" fun t => " -> " ++ t.text) := by
  cases result with
  | none => decide
  | some type =>
      have htype : AllOneLine type.leaves := by simpa using h
      exact OneLine.append (by decide) (type.oneLine_text htype)

theorem passes_docLine {doc : String} (h : OneLine doc) : Passes true (docLine doc) true :=
  (Passes.append (t := doc) (by decide) h.passes).append (by decide)

theorem passes_commentLine {line : String} (h : OneLine line) : Passes true (commentLine line) true := by
  unfold commentLine
  split
  · decide
  · exact (Passes.append (t := line) (by decide) h.passes).append (by decide)

/-- Lines one after the other. -/
theorem passes_lines {lines : List String} (h : ∀ line ∈ lines, Passes true line true) :
    Passes true (Text.join "" lines) true :=
  passes_join (by decide) h

theorem Signature.passes_text {s : Signature} (h : AllOneLine s.leaves) :
    Passes true s.text true := by
  obtain ⟨hdoc, hrest⟩ := List.forall_mem_cons.mp h
  obtain ⟨hname, hrest⟩ := List.forall_mem_cons.mp hrest
  obtain ⟨hparameters, hresult⟩ := List.forall_mem_append.mp hrest
  have hcomment : Passes true ("    /// " ++ s.doc) false := Passes.append (by decide) hdoc.passes
  have hstart := hcomment.append (t := "\n    async fn ") (r := false) (by decide)
  have hself := ((hstart.inside hname).inside (t := "(&self") (by decide)).inside (oneLine_parameters hparameters)
  exact ((hself.inside (t := ") -> ") (by decide)).inside (s.result.oneLine_text hresult)).append (by decide)

theorem Field.passes_text {f : Field} (h : AllOneLine f.leaves) : Passes true f.text true := by
  obtain ⟨hdoc, hrest⟩ := List.forall_mem_cons.mp h
  obtain ⟨hjson, hrest⟩ := List.forall_mem_cons.mp hrest
  obtain ⟨hname, htype⟩ := List.forall_mem_cons.mp hrest
  have hcomment : Passes true ("    /// " ++ f.doc) false := Passes.append (by decide) hdoc.passes
  have hrename := hcomment.append (t := "\n    #[serde(rename = \"") (r := false) (by decide)
  have hpub := (hrename.inside hjson).append (t := "\")]\n    pub ") (r := false) (by decide)
  have hlabel := (hpub.inside (oneLine_append.mp hname).1).inside (t := ": ") (by decide)
  exact (hlabel.inside (f.type.oneLine_text htype)).append (by decide)

theorem ImplMember.passes_text {member : ImplMember} (h : AllOneLine member.leaves) :
    Passes true member.text true := by
  cases member with
  | type name definition =>
      obtain ⟨hname, hdefinition⟩ := List.forall_mem_cons.mp h
      have hstart : Passes true ("    type " ++ name) false := Passes.append (by decide) hname.passes
      exact ((hstart.inside (t := " = ") (by decide)).inside (definition.oneLine_text hdefinition)).append (by decide)
  | method mutable name parameters result body =>
      obtain ⟨hname, hrest⟩ := List.forall_mem_cons.mp h
      obtain ⟨hparameters, hrest⟩ := List.forall_mem_append.mp hrest
      obtain ⟨hresult, hbody⟩ := List.forall_mem_append.mp hrest
      have hself : OneLine (if mutable then "(&mut self" else "(&self") := by cases mutable <;> decide
      have hstart : Passes true ("    fn " ++ name) false := Passes.append (by decide) hname.passes
      have hhead := ((hstart.inside hself).inside (oneLine_parameters hparameters)).inside (t := ")") (by decide)
      have hopen := (hhead.inside (oneLine_result hresult)).inside (t := " \x7b ") (by decide)
      exact (hopen.append (Stmt.passes_text (by simp) body hbody)).append (by decide)

/-! ## Declarations -/

namespace Function

/-- The line that declares a function. -/
def heading (f : Function) : String :=
  "pub async fn " ++ f.name ++ (if f.bounds.isSome then "<B>" else "") ++ "("

/-- The lines before the heading. -/
def above (f : Function) : String :=
  Text.join "" (f.docs.map docLine) ++ Text.join "" (f.attributes.map (· ++ "\n"))

/-- The lines behind the parameters up to the body. -/
def opening (f : Function) : String :=
  f.bounds.elim " \x7b\n" fun bounds => "\nwhere\n    B: " ++ Text.join " + " bounds ++ " + ?Sized,\n\x7b\n"

/-- The lines behind the heading. -/
def below (f : Function) : String :=
  Text.join "" (f.parameters.map fun p => "    " ++ parameterText p ++ ",\n") ++ ")" ++
    (f.result.elim "" fun t => " -> " ++ t.text) ++ f.opening ++ Stmt.lines 1 f.body ++ "\x7d\n"

theorem text_eq (f : Function) : f.text = f.above ++ f.heading ++ "\n" ++ f.below := by
  have hround : "(\n" = "(" ++ "\n" := rfl
  unfold text above heading below opening
  cases f.bounds <;> simp only [hround, Option.elim, String.append_assoc]

variable {f : Function} (h : AllOneLine f.leaves)
include h

theorem oneLine_heading : OneLine f.heading := by
  have hname : OneLine f.name := h f.name (by simp [leaves])
  have hkind : OneLine (if f.bounds.isSome then "<B>" else "") := by split <;> decide
  exact ((OneLine.append (by decide) hname).append hkind).append (by decide)

theorem passes_above (hattributes : ∀ mark ∈ f.attributes, Passes true mark false) :
    Passes true f.above true := by
  have hdocs : ∀ doc ∈ f.docs, OneLine doc := fun doc hdoc => h doc (List.mem_append_left _ hdoc)
  exact (passes_lines (List.forall_mem_map.mpr fun doc hdoc => passes_docLine (hdocs doc hdoc))).append
    (passes_lines (List.forall_mem_map.mpr fun mark hmark =>
      (hattributes mark hmark).append (by decide)))

theorem passes_below : Passes true f.below true := by
  obtain ⟨hparameters, hresult, hbounds, hbody⟩ : AllOneLine (Parameters.leaves f.parameters) ∧
      AllOneLine (f.result.toList.flatMap Ty.leaves) ∧ AllOneLine (f.bounds.getD []) ∧
      AllOneLine (Stmt.allLeaves f.body) := by
    simp only [leaves, allOneLine_append, allOneLine_cons] at h
    exact h.2.2.2
  have hlines : Passes true (Text.join "" (f.parameters.map fun p => "    " ++ parameterText p ++ ",\n")) true := by
    refine passes_lines (List.forall_mem_map.mpr fun parameter hparameter => ?_)
    have htext := (Parameters.forall_oneLine hparameters parameter hparameter).passes
    exact (Passes.append (s := "    ") (by decide) htext).append (by decide)
  have hopening : Passes false f.opening true := by
    unfold opening
    cases hkind : f.bounds with
    | none => decide
    | some bounds =>
        rw [hkind] at hbounds
        have hwhere : Passes false ("\nwhere\n    B: " ++ Text.join " + " bounds) false :=
          Passes.append (by decide) (oneLine_join (by decide) hbounds).passes
        exact hwhere.append (by decide)
  have hclosed := (hlines.append (t := ")") (r := false) (by decide)).inside (oneLine_result hresult)
  exact ((hclosed.append hopening).append (Stmt.passes_lines 0 f.body hbody)).append (by decide)

end Function

namespace Item

/-- The first line of a table behind its comment. -/
def tableStart (start name : String) (item : Ty) : String :=
  start ++ name ++ ": " ++ (Ty.borrowed false (.slice item)).text ++ " = &["

/-- The line that says what is declared, if the declaration is public. -/
def heading? : Item → Option String
  | .function f => some f.heading
  | .backend _ name _ => some ("pub trait " ++ name ++ ": Send + Sync \x7b")
  | .table _ isPublic name item _ =>
    if isPublic then some (tableStart "pub const " name item) else none
  | .record _ name _ _ => some ("pub struct " ++ name ++ " \x7b")
  | .impl _ _ _ => none
  | .alias _ name target => some ("pub type " ++ name ++ " = " ++ target ++ ";")

/-- The words that public declarations begin with. -/
def publicWords : List String := ["pub async fn ", "pub trait ", "pub const ", "pub struct ", "pub type "]

/-- The words that a declaration begins with, if it is public. -/
def firstWords : Item → String
  | .function _ => "pub async fn "
  | .backend _ _ _ => "pub trait "
  | .table _ _ _ _ _ => "pub const "
  | .record _ _ _ _ => "pub struct "
  | .impl _ _ _ => ""
  | .alias _ _ _ => "pub type "

theorem exists_heading {item : Item} {heading : String} (h : heading ∈ item.heading?) :
    item.firstWords ∈ publicWords ∧ ∃ rest, heading = item.firstWords ++ rest := by
  cases item with
  | table doc isPublic name item rows =>
      cases isPublic with
      | false => cases h
      | true =>
          obtain rfl := Option.some.inj h
          simp only [tableStart, String.append_assoc]
          exact ⟨by simp [firstWords, publicWords], _, rfl⟩
  | impl => cases h
  | function | backend | record | «alias» =>
      obtain rfl := Option.some.inj h
      simp only [Function.heading, String.append_assoc]
      exact ⟨by simp [firstWords, publicWords], _, rfl⟩

/-- The first words of a heading tell the kind of declaration. -/
theorem filter_heading {start : String} (hstart : start ∈ publicWords) (item : Item) :
    (item.heading?.toList.map String.toList).filter (start.toList.isPrefixOf ·) =
      if item.firstWords = start then item.heading?.toList.map String.toList else [] := by
  cases hheading : item.heading? with
  | none => exact (ite_self _).symm
  | some heading =>
      obtain ⟨hopening, rest, rfl⟩ := exists_heading hheading
      split
      · next hsame =>
          refine List.filter_cons_of_pos (List.isPrefixOf_iff_prefix.mpr ?_)
          rw [hsame, String.toList_append]
          exact List.prefix_append _ _
      · next hother =>
          -- none of the words begins another, so a heading begins with one of them only
          have happart : ∀ word ∈ publicWords, ∀ other ∈ publicWords, other ≠ word →
              ¬word.toList <+: other.toList ∧ ¬other.toList <+: word.toList := by decide
          have hprefix := isPrefixOf_append (happart start hstart _ hopening hother) rest
          exact List.filter_cons_of_neg (Bool.eq_false_iff.mp hprefix)

/-- The attributes of a function. -/
def attributes : Item → List String
  | .function f => f.attributes
  | _ => []

/-- Nothing that stands in a declaration begins a line like a heading. -/
structure OnLines (item : Item) : Prop where
  leaves : AllOneLine item.leaves
  attributes : ∀ mark ∈ item.attributes, Passes true mark false

/-- The rows of a table, each below its comments. -/
theorem passes_rows {rows : List (List String × Expr)}
    (h : AllOneLine (rows.flatMap fun row => row.1 ++ row.2.leaves)) :
    Passes true (Text.join "" (rows.map fun row =>
      Text.join "" (row.1.map commentLine) ++ "    " ++ row.2.text 1 ++ ",\n")) true := by
  refine passes_lines (List.forall_mem_map.mpr fun row hrow => ?_)
  obtain ⟨hcomments, hvalue⟩ : AllOneLine row.1 ∧ AllOneLine row.2.leaves :=
    List.forall_mem_append.mp fun leaf hleaf => h leaf (List.mem_flatMap.mpr ⟨row, hrow, hleaf⟩)
  have hlines := passes_lines (List.forall_mem_map.mpr fun line hline => passes_commentLine (hcomments line hline))
  have hmargin := hlines.append (t := "    ") (r := false) (by decide)
  exact (hmargin.append (row.2.passes_text 1 hvalue)).append (by decide)

/-! The text of each kind of declaration, around its heading. -/

theorem headings_function {f : Function} (h : AllOneLine f.leaves)
    (hattributes : ∀ mark ∈ f.attributes, Passes true mark false) :
    headings (lines (.function f)) = [f.heading.toList] := by
  have hmark : isHeading f.heading.toList = true :=
    isHeading_append (isHeading_append (isHeading_append (by decide)))
  rw [lines, Function.text_eq]
  exact headings_between (Function.passes_above h hattributes) (Function.oneLine_heading h) hmark
    (Function.passes_below h)

theorem headings_backend {doc name : String} {methods : List Signature} (hdoc : OneLine doc) (hname : OneLine name)
    (hmethods : ∀ method ∈ methods, AllOneLine method.leaves) :
    headings (lines (.backend doc name methods)) = [("pub trait " ++ name ++ ": Send + Sync \x7b").toList] := by
  have htext : lines (.backend doc name methods) = docLine doc ++ "#[async_trait]\n" ++
      ("pub trait " ++ name ++ ": Send + Sync \x7b") ++ "\n" ++
        (Text.join "" (methods.map Signature.text) ++ "\x7d\n") := by
    have hstart : "#[async_trait]\npub trait " = "#[async_trait]\n" ++ "pub trait " := rfl
    have hopen : ": Send + Sync \x7b\n" = ": Send + Sync \x7b" ++ "\n" := rfl
    rw [lines, hstart, hopen]
    simp only [String.append_assoc]
  have hheading : OneLine ("pub trait " ++ name ++ ": Send + Sync \x7b") :=
    (OneLine.append (by decide) hname).append (by decide)
  have hlines : Passes true (Text.join "" (methods.map Signature.text)) true :=
    passes_lines (List.forall_mem_map.mpr fun method hmethod => Signature.passes_text (hmethods method hmethod))
  rw [htext]
  exact headings_between ((passes_docLine hdoc).append (by decide)) hheading
    (isHeading_append (isHeading_append (by decide))) (hlines.append (t := "\x7d\n") (r := true) (by decide))

theorem headings_table {doc name : String} {item : Ty} {rows : List (List String × Expr)} (hdoc : OneLine doc)
    (hname : OneLine name) (hitem : AllOneLine item.leaves)
    (hrows : AllOneLine (rows.flatMap fun row => row.1 ++ row.2.leaves)) (isPublic : Bool) :
    headings (lines (.table doc isPublic name item rows)) =
      if isPublic then [(tableStart "pub const " name item).toList] else [] := by
  have htext : lines (.table doc isPublic name item rows) = docLine doc ++
      tableStart (if isPublic then "pub const " else "const ") name item ++ "\n" ++
        (Text.join "" (rows.map fun row => Text.join "" (row.1.map commentLine) ++ "    " ++ row.2.text 1 ++ ",\n") ++
          "];\n") := by
    have hopen : " = &[\n" = " = &[" ++ "\n" := rfl
    rw [lines, hopen, tableStart]
    simp only [String.append_assoc]
  have htype : OneLine (Ty.borrowed false (.slice item)).text := Ty.oneLine_text _ hitem
  have hstart {start : String} (hstart : OneLine start) : OneLine (tableStart start name item) :=
    (((hstart.append hname).append (by decide)).append htype).append (by decide)
  have hbelow := (passes_rows hrows).append (t := "];\n") (r := true) (by decide)
  rw [htext]
  cases isPublic with
  | true =>
      have hmark : isHeading (tableStart "pub const " name item).toList = true :=
        isHeading_append (isHeading_append (isHeading_append (isHeading_append (by decide))))
      exact headings_between (passes_docLine hdoc) (hstart (by decide)) hmark hbelow
  | false =>
      have hconst : Passes true "const " false := by decide
      have hline : Passes true (tableStart "const " name item) false :=
        (((hconst.inside hname).inside (by decide)).inside htype).inside (by decide)
      exact ((((passes_docLine hdoc).append hline).append (t := "\n") (by decide)).append hbelow).headings

theorem lines_record (doc name : String) (derives : List String) (fields : List Field) :
    lines (.record doc name derives fields) = docLine doc ++ ("#[derive(" ++ Text.join ", " derives ++ ")]\n") ++
      ("pub struct " ++ name ++ " \x7b") ++ "\n" ++ (Text.join "" (fields.map Field.text) ++ "\x7d\n") := by
  have hstart : ")]\npub struct " = ")]\n" ++ "pub struct " := rfl
  have hopen : " \x7b\n" = " \x7b" ++ "\n" := rfl
  rw [lines, hstart, hopen]
  simp only [String.append_assoc]

theorem headings_record {doc name : String} {derives : List String} {fields : List Field} (hdoc : OneLine doc)
    (hderives : AllOneLine derives) (hname : OneLine name)
    (hfields : ∀ field ∈ fields, AllOneLine field.leaves) :
    headings (lines (.record doc name derives fields)) = [("pub struct " ++ name ++ " \x7b").toList] := by
  have hderive : Passes true ("#[derive(" ++ Text.join ", " derives) false :=
    Passes.append (by decide) (oneLine_join (by decide) hderives).passes
  have hheading : OneLine ("pub struct " ++ name ++ " \x7b") :=
    (OneLine.append (by decide) hname).append (by decide)
  have hlines : Passes true (Text.join "" (fields.map Field.text)) true :=
    passes_lines (List.forall_mem_map.mpr fun field hfield => Field.passes_text (hfields field hfield))
  rw [lines_record]
  exact headings_between ((passes_docLine hdoc).append (hderive.append (by decide))) hheading
    (isHeading_append (isHeading_append (by decide))) (hlines.append (t := "\x7d\n") (r := true) (by decide))

theorem headings_impl {interface name : String} {members : List ImplMember} (hinterface : OneLine interface)
    (hname : OneLine name) (hmembers : ∀ member ∈ members, AllOneLine member.leaves) :
    headings (lines (.impl interface name members)) = [] := by
  have hstart : Passes true ("impl " ++ interface) false := Passes.append (by decide) hinterface.passes
  have hhead := ((hstart.inside (t := " for ") (by decide)).inside hname).append (t := " \x7b\n")
    (r := true) (by decide)
  have hlines : Passes true (Text.join "\n" (members.map ImplMember.text)) true :=
    passes_join (by decide) (List.forall_mem_map.mpr fun member hmember =>
      ImplMember.passes_text (hmembers member hmember))
  exact ((hhead.append hlines).append (t := "\x7d\n") (r := true) (by decide)).headings

theorem headings_alias {doc name target : String} (hdoc : OneLine doc) (hname : OneLine name)
    (htarget : OneLine target) :
    headings (lines (.alias doc name target)) = [("pub type " ++ name ++ " = " ++ target ++ ";").toList] := by
  have htext : lines (.alias doc name target) =
      docLine doc ++ ("pub type " ++ name ++ " = " ++ target ++ ";") ++ "\n" ++ "" := by
    have hend : ";\n" = ";" ++ "\n" := rfl
    rw [lines, hend]
    simp only [String.append_assoc, String.append_empty]
  have hheading : OneLine ("pub type " ++ name ++ " = " ++ target ++ ";") :=
    (((OneLine.append (by decide) hname).append (by decide)).append htarget).append (by decide)
  have hmark : isHeading ("pub type " ++ name ++ " = " ++ target ++ ";").toList = true :=
    isHeading_append (isHeading_append (isHeading_append (isHeading_append (by decide))))
  rw [htext]
  exact headings_between (q := true) (passes_docLine hdoc) hheading hmark (by decide)

theorem endsLine_lines (item : Item) : EndsLine item.lines.toList := by
  cases item <;> exact endsLine_append (by decide)

theorem onLines_iff {item : Item} : item.OnLines ↔ AllOneLine item.leaves ∧
    ∀ mark ∈ item.attributes, Passes true mark false :=
  ⟨fun h => ⟨h.leaves, h.attributes⟩, fun ⟨hleaves, hattributes⟩ => ⟨hleaves, hattributes⟩⟩

theorem endsLine_text (item : Item) : EndsLine item.text.toList := endsLine_append (by decide)

/-- A public declaration has one heading, a private one has none. -/
theorem headings_text {item : Item} (h : item.OnLines) :
    headings item.text = item.heading?.toList.map String.toList := by
  obtain ⟨hleaves, hattributes⟩ := h
  have hblank : headings "\n" = [] := by decide
  rw [text, headings_append item.endsLine_lines, hblank, List.append_nil]
  cases item with
  | function f => exact headings_function hleaves hattributes
  | backend doc name methods =>
      obtain ⟨hdoc, hrest⟩ := List.forall_mem_cons.mp hleaves
      obtain ⟨hname, hmethods⟩ := List.forall_mem_cons.mp (List.forall_mem_cons.mp hrest).2
      exact headings_backend hdoc (oneLine_append.mp hname).1 fun method hmethod leaf hleaf =>
        hmethods leaf (List.mem_flatMap.mpr ⟨method, hmethod, hleaf⟩)
  | table doc isPublic name item rows =>
      obtain ⟨hdoc, hrest⟩ := List.forall_mem_cons.mp hleaves
      obtain ⟨hname, hrest⟩ := List.forall_mem_cons.mp hrest
      obtain ⟨hitem, hrows⟩ := List.forall_mem_append.mp hrest
      rw [headings_table hdoc (oneLine_append.mp hname).1 hitem hrows]
      cases isPublic <;> rfl
  | record doc name derives fields =>
      obtain ⟨hdoc, hrest⟩ := List.forall_mem_cons.mp hleaves
      obtain ⟨hderives, hrest⟩ := List.forall_mem_append.mp hrest
      obtain ⟨hname, hfields⟩ := List.forall_mem_cons.mp hrest
      exact headings_record hdoc hderives hname fun field hfield leaf hleaf =>
        hfields leaf (List.mem_flatMap.mpr ⟨field, hfield, hleaf⟩)
  | impl interface name members =>
      obtain ⟨hinterface, hrest⟩ := List.forall_mem_cons.mp hleaves
      obtain ⟨hname, hmembers⟩ := List.forall_mem_cons.mp hrest
      exact headings_impl hinterface hname fun member hmember leaf hleaf =>
        hmembers leaf (List.mem_flatMap.mpr ⟨member, hmember, hleaf⟩)
  | «alias» doc name target =>
      obtain ⟨hdoc, hrest⟩ := List.forall_mem_cons.mp hleaves
      obtain ⟨hname, hrest⟩ := List.forall_mem_cons.mp hrest
      exact headings_alias hdoc hname (hrest target List.mem_cons_self)

end Item

/-! ## Imports -/

theorem IsWord.oneLine {name : String} (h : IsWord name) : OneLine name := by
  intro c hc
  have hchar := h.2 c hc
  constructor
  · rintro rfl
    exact absurd hchar (by decide)
  · rintro rfl
    exact absurd hchar (by decide)

namespace Imports

/-- The line that imports symbols from a path. -/
def statement (path : String) : List String → String
  | [symbol] => "use " ++ path ++ "::" ++ symbol ++ ";"
  | symbols => "use " ++ path ++ "::\x7b" ++ Text.join ", " symbols ++ "\x7d;"

theorem line_eq (path : String) (symbols : List String) : line path symbols = statement path symbols ++ "\n" := by
  have hend : ";\n" = ";" ++ "\n" := rfl
  have hclose : "\x7d;\n" = "\x7d;" ++ "\n" := rfl
  unfold line statement
  split
  · rw [hend]
    simp only [String.append_assoc]
  · rw [hclose]
    simp only [String.append_assoc]

theorem oneLine_statement {path : String} {symbols : List String} (hpath : OneLine path)
    (hsymbols : ∀ symbol ∈ symbols, OneLine symbol) : OneLine (statement path symbols) := by
  have hstart : OneLine ("use " ++ path) := OneLine.append (by decide) hpath
  unfold statement
  split
  · next symbol =>
      exact ((hstart.append (by decide)).append (hsymbols symbol List.mem_cons_self)).append (by decide)
  · exact ((hstart.append (by decide)).append (oneLine_join (by decide) hsymbols)).append (by decide)

theorem isHeading_statement (path : String) (symbols : List String) :
    isHeading (statement path symbols).toList = true := by
  unfold statement
  split
  all_goals exact isHeading_append (isHeading_append (isHeading_append (isHeading_append (by decide))))

/-- No text that begins with another letter is the start of an import. -/
theorem not_starts_statement {start : String} (h : ¬start.toList <+: "use ".toList ∧ ¬"use ".toList <+: start.toList)
    (path : String) (symbols : List String) : start.toList.isPrefixOf (statement path symbols).toList = false := by
  unfold statement
  split
  all_goals
    simp only [String.append_assoc]
    exact isPrefixOf_append h _

theorem starts_statement (path : String) (symbols : List String) :
    "use ".toList.isPrefixOf (statement path symbols).toList = true := by
  unfold statement
  split
  all_goals
    simp only [String.append_assoc, String.toList_append]
    exact List.isPrefixOf_iff_prefix.mpr (List.prefix_append _ _)

theorem endsLine_lines (imports : Imports) :
    ∀ text ∈ imports.entries.map (fun entry => line entry.1 entry.2), EndsLine text.toList := by
  refine List.forall_mem_map.mpr fun entry _ => ?_
  rw [line_eq]
  exact endsLine_append (by decide)

theorem endsLine_text (imports : Imports) : EndsLine imports.text.toList := endsLine_join imports.endsLine_lines

section

variable {recorded : List Use} (h : ∀ use ∈ recorded, OneLine use.path ∧ OneLine use.symbol)
include h

/-- The lines of recorded imports. -/
theorem lines_text : Text.lines (empty.recordAll recorded).text =
    (empty.recordAll recorded).entries.map fun entry => (statement entry.1 entry.2).toList := by
  have hline : ∀ entry ∈ (empty.recordAll recorded).entries, OneLine (statement entry.1 entry.2) := by
    intro entry hentry
    obtain ⟨use, huse, hpath⟩ := exists_use hentry
    refine oneLine_statement (hpath ▸ (h use huse).1) fun symbol hsymbol => ?_
    have hlisted : ⟨entry.1, symbol⟩ ∈ (empty.recordAll recorded).uses :=
      List.mem_flatMap.mpr ⟨entry, hentry, List.mem_map_of_mem hsymbol⟩
    exact (h _ (mem_uses_recordAll.mp hlisted)).2
  rw [text, lines_join (endsLine_lines _), List.flatMap_map, List.map_eq_flatMap]
  refine List.flatMap_congr fun entry hentry => ?_
  rw [line_eq, lines_line (hline entry hentry)]

/-- All of them are headings. -/
theorem headings_text : headings (empty.recordAll recorded).text =
    (empty.recordAll recorded).entries.map fun entry => (statement entry.1 entry.2).toList := by
  rw [headings, lines_text h]
  exact List.filter_eq_self.mpr (List.forall_mem_map.mpr fun entry _ => isHeading_statement _ _)

end

/-! ## What a line imports -/

/-- Texts are the same on both sides of the last of a character. -/
theorem append_cons_inj_right {α : Type} {c : α} {xs ys us vs : List α} (hu : c ∉ us) (hv : c ∉ vs)
    (h : xs ++ c :: us = ys ++ c :: vs) : xs = ys ∧ us = vs := by
  rcases List.append_eq_append_iff.mp h with ⟨between, rfl, hrest⟩ | ⟨between, rfl, hrest⟩
  · cases between with
    | nil => exact ⟨(List.append_nil xs).symm, (List.cons.inj hrest).2⟩
    | cons first between =>
        refine absurd ?_ hu
        rw [(List.cons.inj hrest).2]
        exact List.mem_append_right _ List.mem_cons_self
  · cases between with
    | nil => exact ⟨List.append_nil ys, (List.cons.inj hrest).2.symm⟩
    | cons first between =>
        refine absurd ?_ hv
        rw [(List.cons.inj hrest).2]
        exact List.mem_append_right _ List.mem_cons_self

/-- What stands behind the path in the line of an import. -/
def listed : List String → String
  | [symbol] => symbol ++ ";"
  | symbols => "\x7b" ++ Text.join ", " symbols ++ "\x7d;"

theorem statement_eq (path : String) (symbols : List String) :
    statement path symbols = "use " ++ path ++ ":" ++ (":" ++ listed symbols) := by
  have hcolons : "::" = ":" ++ ":" := rfl
  have hbrace : "::\x7b" = ":" ++ (":" ++ "\x7b") := rfl
  unfold statement listed
  split
  · simp only [hcolons, String.append_assoc]
  · simp only [hbrace, String.append_assoc]

theorem colon_not_mem_listed {symbols : List String} (h : ∀ symbol ∈ symbols, IsWord symbol) :
    ':' ∉ (listed symbols).toList := by
  have hword : ∀ symbol ∈ symbols, ∀ c ∈ symbol.toList, c ≠ ':' := by
    rintro symbol hsymbol c hc rfl
    exact absurd ((h symbol hsymbol).2 ':' hc) (by decide)
  have hmark {mark : String} (h : ':' ∉ mark.toList) : ∀ c ∈ mark.toList, c ≠ ':' := fun c hc hsame =>
    h (hsame ▸ hc)
  suffices hall : ∀ c ∈ (listed symbols).toList, c ≠ ':' from fun hmem => hall ':' hmem rfl
  unfold listed
  split
  · next symbol =>
      rw [String.toList_append]
      exact List.forall_mem_append.mpr ⟨hword symbol List.mem_cons_self, hmark (by decide)⟩
  · rw [String.toList_append, String.toList_append]
    refine List.forall_mem_append.mpr ⟨List.forall_mem_append.mpr ⟨hmark (by decide), ?_⟩, hmark (by decide)⟩
    exact forall_toList_join (hmark (by decide)) hword

/-- The line of an import tells the path and the symbols. -/
theorem statement_inj {path other : String} {symbols others : List String}
    (hsymbols : ∀ symbol ∈ symbols, IsWord symbol) (hothers : ∀ symbol ∈ others, IsWord symbol) (h : statement path symbols = statement other others) :
    path = other ∧ symbols = others := by
  have hchars : ∀ path symbols, (statement path symbols).toList =
      "use ".toList ++ path.toList ++ [':'] ++ ':' :: (listed symbols).toList := by
    intro path symbols
    rw [statement_eq]
    simp only [String.toList_append]
    rfl
  -- symbols have no colons, so the path ends at the last one
  have hsame := congrArg String.toList h
  rw [hchars, hchars] at hsame
  obtain ⟨hpath, -⟩ := append_cons_inj_right (colon_not_mem_listed hsymbols) (colon_not_mem_listed hothers) hsame
  obtain rfl := String.toList_inj.mp (List.append_cancel_left (List.append_cancel_right hpath))
  have hwords := congrArg (fun line => words (line ++ "\n")) h
  rw [← line_eq, ← line_eq, words_line path hsymbols, words_line path hothers] at hwords
  exact ⟨rfl, List.append_cancel_left (List.cons.inj hwords).2⟩

/-- If no path has a line break, what is imported is what the lines list. -/
theorem mem_uses_iff {recorded : List Use} (h : ∀ use ∈ recorded, OneLine use.path ∧ IsWord use.symbol) {use : Use} :
    use ∈ (empty.recordAll recorded).uses ↔ ∃ symbols, (∀ symbol ∈ symbols, IsWord symbol) ∧ use.symbol ∈ symbols ∧
      (statement use.path symbols).toList ∈ Text.lines (empty.recordAll recorded).text := by
  have hwords : ∀ entry ∈ (empty.recordAll recorded).entries, ∀ symbol ∈ entry.2, IsWord symbol := by
    intro entry hentry symbol hsymbol
    have hlisted : ⟨entry.1, symbol⟩ ∈ (empty.recordAll recorded).uses :=
      List.mem_flatMap.mpr ⟨entry, hentry, List.mem_map_of_mem hsymbol⟩
    exact (h _ (mem_uses_recordAll.mp hlisted)).2
  rw [lines_text fun use huse => ⟨(h use huse).1, (h use huse).2.oneLine⟩]
  constructor
  · intro huse
    obtain ⟨entry, hentry, hlisted⟩ := List.mem_flatMap.mp huse
    obtain ⟨symbol, hsymbol, rfl⟩ := List.mem_map.mp hlisted
    exact ⟨entry.2, hwords entry hentry, hsymbol, List.mem_map.mpr ⟨entry, hentry, rfl⟩⟩
  · rintro ⟨symbols, hsymbols, hlisted, hline⟩
    obtain ⟨entry, hentry, hsame⟩ := List.mem_map.mp hline
    obtain ⟨hpath, rfl⟩ := statement_inj (hwords entry hentry) hsymbols (String.toList_inj.mp hsame)
    exact List.mem_flatMap.mpr ⟨entry, hentry, List.mem_map.mpr ⟨use.symbol, hlisted, by rw [hpath]⟩⟩

end Imports

end RegionGateway.Rust
