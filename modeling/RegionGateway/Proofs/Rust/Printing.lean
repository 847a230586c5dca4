import Mathlib.Data.List.Forall2
import RegionGateway.Proofs.Rust.TokenTrees
import RegionGateway.Rust.Tree

/-!
# How printed Rust is read

The token trees of types, expressions, statements and functions. What is printed for one of them, if the texts
in it can be read, is read as its token trees (`Function.closed_text`): layout and nesting depth do not
matter.
-/

namespace RegionGateway.Rust

open TokenTree (word mark)

/-! ## Separators -/

theorem closed_newline : Closed "\n" [] := by decide

theorem closed_colon : Closed ": " [.mark ':'] := by decide

theorem closed_lineComma : Closed ",\n" [.mark ','] := by decide

theorem closed_equals : Closed " = " [.mark '='] := by decide

theorem closed_blockEnd : Closed "\x7d" [.mark '\x7d'] := by decide

theorem closed_comma : Closed ", " [.mark ','] := by decide

theorem closed_roundEnd : Closed ")" [.mark ')'] := by decide

theorem closed_blockStart : Closed " \x7b\n" [.mark '\x7b'] := by decide

theorem closed_let : Closed "let " [.word "let"] := by decide

theorem closed_roundStart : Closed "(" [.mark '('] := by decide

theorem closed_mutable : Closed "&mut " [.mark '&', .word "mut"] := by decide

theorem closed_reference : Closed "&" [.mark '&'] := by decide

theorem closed_margin : Closed "    " [] := by decide

/-! ## Texts -/

/-- The token trees of a text that can be read. -/
def treesOf (text : String) : List TokenTree := (read text).getD []

/-- A text that is read as its token trees. -/
def IsReadable (text : String) : Prop := Reads text (flatten (treesOf text)) ∧ ArePlain (treesOf text)

theorem treesOf_eq {text : String} {trees : List TokenTree} (h : Reads text (flatten trees))
    (hplain : ArePlain trees) : treesOf text = trees := by
  rw [treesOf, read_of_reads h hplain, Option.getD_some]

theorem isReadable_of_reads {text : String} {trees : List TokenTree} (h : Reads text (flatten trees))
    (hplain : ArePlain trees) : IsReadable text := by
  rw [IsReadable, treesOf_eq h hplain]
  exact ⟨h, hplain⟩

theorem isReadable_iff {text : String} : IsReadable text ↔
    (read text).isSome = true ∧ (Reading.between.run text.toList).1.isSettled = true := by
  constructor
  · rintro ⟨hreads, hplain⟩
    rw [read_of_reads hreads hplain]
    exact ⟨rfl, (reads_iff.mp hreads).2⟩
  · rintro ⟨hread, hsettled⟩
    obtain ⟨trees, htrees⟩ := Option.isSome_iff_exists.mp hread
    obtain ⟨htokens, hplain⟩ := flatten_of_read htrees
    exact isReadable_of_reads (reads_iff.mpr ⟨htokens.symm, hsettled⟩) hplain

instance (text : String) : Decidable (IsReadable text) := decidable_of_iff _ isReadable_iff.symm

/-- Trees one after the other with others between them. -/
def separated (separator : List TokenTree) : List (List TokenTree) → List TokenTree
  | [] => []
  | [trees] => trees
  | trees :: rest => trees ++ separator ++ separated separator rest

/-- Texts that are read as lists of trees. -/
abbrev AllRead (texts : List String) (trees : List (List TokenTree)) : Prop :=
  List.Forall₂ (fun text trees => Reads text (flatten trees)) texts trees

theorem reads_join {separator : String} (between : List TokenTree) {texts : List String}
    {trees : List (List TokenTree)} (hseparator : Closed separator (flatten between))
    (hapart : StartsApart separator) (h : AllRead texts trees) :
    Reads (Text.join separator texts) (flatten (separated between trees)) := by
  induction h with
  | nil => exact Closed.reads (show Closed "" [] by decide)
  | cons hfirst hrest ih =>
      cases hrest with
      | nil => exact hfirst
      | cons hnext hmore =>
          rw [Text.join, separated, flatten_append, flatten_append]
          · exact (hfirst.closed hseparator hapart).reads_append ih
          · simp
          · simp

theorem arePlain_separated {separator : List TokenTree} {trees : List (List TokenTree)}
    (hseparator : ArePlain separator) (h : ∀ ts ∈ trees, ArePlain ts) :
    ArePlain (separated separator trees) := by
  induction trees with
  | nil => trivial
  | cons first rest ih =>
      obtain ⟨hfirst, hrest⟩ := List.forall_mem_cons.mp h
      cases rest with
      | nil => exact hfirst
      | cons next more =>
          rw [separated, arePlain_append, arePlain_append]
          · exact ⟨⟨hfirst, hseparator⟩, ih hrest⟩
          · simp

theorem arePlain_commas {trees : List (List TokenTree)} (h : ∀ ts ∈ trees, ArePlain ts) :
    ArePlain (separated [mark ','] trees) :=
  arePlain_separated (by simp [Token.role]) h

theorem arePlain_flatMap {α : Type} {trees : α → List TokenTree} {as : List α}
    (h : ∀ a ∈ as, ArePlain (trees a)) : ArePlain (as.flatMap trees) := by
  induction as with
  | nil => trivial
  | cons a as ih =>
      obtain ⟨hfirst, hrest⟩ := List.forall_mem_cons.mp h
      exact arePlain_append.mpr ⟨hfirst, ih hrest⟩

/-- The trees of names with dots between them. -/
def pathTrees (names : List String) : List TokenTree :=
  separated [mark '.'] (names.map fun name => [word name])

theorem pathTrees_cons (name after : String) (names : List String) :
    pathTrees (name :: after :: names) = word name :: mark '.' :: pathTrees (after :: names) := rfl

theorem reads_path {names : List String} (h : ∀ name ∈ names, IsName name) :
    Reads (Text.join "." names) (flatten (pathTrees names)) := by
  refine reads_join [mark '.'] (show Closed "." [.mark '.'] by decide) rfl ?_
  rw [AllRead, List.forall₂_map_right_iff, List.forall₂_same]
  exact fun name hname => reads_name (h name hname)

theorem arePlain_path (names : List String) : ArePlain (pathTrees names) := by
  refine arePlain_separated (by simp [Token.role]) ?_
  simp

/-- Texts between parentheses, with commas between them. -/
theorem closed_round {texts : List String} {trees : List (List TokenTree)} (h : AllRead texts trees) :
    Closed ("(" ++ Text.join ", " texts ++ ")") (flatten [.group .round (separated [mark ','] trees)]) := by
  have hinside := closed_roundStart.reads_append (reads_join [mark ','] closed_comma rfl h)
  simpa using hinside.closed closed_roundEnd rfl

theorem startsApart_round (s : String) : StartsApart ("(" ++ s ++ ")") :=
  startsApart_append (startsApart_append (by decide) s) ")"

theorem reads_await : Reads ".await" [.mark '.', .word "await"] :=
  .inr ⟨"await".toList, [.mark '.'], by decide, by decide⟩

/-- Texts one after the other, each read with nothing left. -/
theorem closed_join {α : Type} (text : α → String) (trees : α → List TokenTree) {as : List α}
    (h : ∀ a ∈ as, Closed (text a) (flatten (trees a))) :
    Closed (Text.join "" (as.map text)) (flatten (as.flatMap trees)) := by
  induction as with
  | nil => exact show Closed "" [] by decide
  | cons a as ih =>
      obtain ⟨hfirst, hrest⟩ := List.forall_mem_cons.mp h
      have hjoin : Text.join "" ((a :: as).map text) = text a ++ Text.join "" (as.map text) := by
        cases as with
        | nil => simp [Text.join]
        | cons next as => simp [Text.join]
      rw [hjoin, List.flatMap_cons, flatten_append]
      exact hfirst.append (ih hrest)

theorem closed_indent (depth : Nat) : Closed (indent depth) [] := by
  refine closed_gaps fun c hc => ?_
  rw [indent, String.toList_ofList] at hc
  exact List.eq_of_mem_replicate hc

/-- A text with a block after it. -/
theorem Reads.block {start lines : String} {ts us : List Token} (hstart : Reads start ts)
    (hlines : Closed lines us) (depth : Nat) :
    Closed (start ++ " \x7b\n" ++ lines ++ indent depth ++ "\x7d")
      (ts ++ .mark '\x7b' :: (us ++ [.mark '\x7d'])) := by
  have hopen := (hstart.closed closed_blockStart rfl).append hlines
  simpa using (hopen.append (closed_indent depth)).append closed_blockEnd

/-! ## Types -/

namespace Ty

mutual

/-- The token trees of a type. -/
def trees : Ty → List TokenTree
  | .name text => treesOf text
  | .inModule module text => treesOf module ++ [mark ':', mark ':'] ++ treesOf text
  | .apply head arguments =>
    treesOf head ++ [mark '<'] ++ separated [mark ','] (allTrees arguments) ++ [mark '>']
  | .borrowed true target => [mark '&', word "mut"] ++ trees target
  | .borrowed false target => [mark '&'] ++ trees target
  | .dynamic text => [word "dyn"] ++ treesOf text
  | .slice item => [.group .square (trees item)]
  | .tuple items => [.group .round (separated [mark ','] (allTrees items))]

def allTrees : List Ty → List (List TokenTree)
  | [] => []
  | type :: types => trees type :: allTrees types

end

mutual

/-- The texts in a type can be read. -/
def Readable : Ty → Prop
  | .name text => IsReadable text
  | .inModule module text => IsReadable module ∧ IsReadable text
  | .apply head arguments => IsReadable head ∧ AllReadable arguments
  | .borrowed _ target => target.Readable
  | .dynamic text => IsReadable text
  | .slice item => item.Readable
  | .tuple items => AllReadable items

def AllReadable : List Ty → Prop
  | [] => True
  | type :: types => type.Readable ∧ AllReadable types

end

mutual

theorem reads_text (type : Ty) (h : type.Readable) : Reads type.text (flatten type.trees) := by
  cases type with
  | name name => exact h.1
  | inModule module name =>
      have hcolons : Closed "::" [.mark ':', .mark ':'] := by decide
      have htext := (h.1.1.closed hcolons rfl).reads_append h.2.1
      simpa [trees, text] using htext
  | apply head arguments =>
      have hopen : Closed "<" [.mark '<'] := by decide
      have hclose : Closed ">" [.mark '>'] := by decide
      have harguments := reads_join [mark ','] closed_comma rfl (allRead_texts arguments h.2)
      have htext := ((h.1.1.closed hopen rfl).reads_append harguments).closed hclose rfl
      simpa [trees, text] using htext.reads
  | borrowed mutable target => 
      have htarget := reads_text target h
      cases mutable with
      | true =>
          simpa [trees, text] using closed_mutable.reads_append htarget
      | false =>
          simpa [trees, text] using closed_reference.reads_append htarget
  | dynamic name => 
      have hword : Closed "dyn " [.word "dyn"] := by decide
      simpa [trees, text] using hword.reads_append h.1
  | slice item => 
      have hopen : Closed "[" [.mark '['] := by decide
      have hclose : Closed "]" [.mark ']'] := by decide
      have htext := (hopen.reads_append (reads_text item h)).closed hclose rfl
      simpa [trees, text] using htext.reads
  | tuple items => simpa [trees, text] using (closed_round (allRead_texts items h)).reads

theorem allRead_texts (types : List Ty) (h : AllReadable types) : AllRead (texts types) (allTrees types) := by
  cases types with
  | nil => exact .nil
  | cons type types => exact .cons (reads_text type h.1) (allRead_texts types h.2)

end

mutual

theorem arePlain_trees (type : Ty) (h : type.Readable) : ArePlain type.trees := by
  cases type with
  | name name => exact h.2
  | inModule module name => simp [trees, Token.role, h.1.2, h.2.2]
  | apply head arguments =>
      have harguments := arePlain_commas (arePlain_allTrees arguments h.2)
      simp [trees, Token.role, h.1.2, harguments]
  | borrowed mutable target =>
      have htarget := arePlain_trees target h
      cases mutable <;> simp [trees, Token.role, htarget]
  | dynamic name => simp [trees, h.2]
  | slice item => simp [trees, arePlain_trees item h]
  | tuple items => simp [trees, arePlain_commas (arePlain_allTrees items h)]

theorem arePlain_allTrees (types : List Ty) (h : AllReadable types) : ∀ ts ∈ allTrees types, ArePlain ts := by
  cases types with
  | nil => simp [allTrees]
  | cons type types =>
      rw [allTrees]
      exact List.forall_mem_cons.mpr ⟨arePlain_trees type h.1, arePlain_allTrees types h.2⟩

end

end Ty

/-! ## Expressions -/

namespace Expr

mutual

/-- The token trees of an expression. -/
def trees : Expr → List TokenTree
  | .place text => treesOf text
  | .literal content => [.leaf (.literal content)]
  | .call function arguments =>
    treesOf function ++ [.group .round (separated [mark ','] (allTrees arguments))]
  | .method object name arguments =>
    trees object ++ [mark '.'] ++ treesOf name ++ [.group .round (separated [mark ','] (allTrees arguments))]
  | .borrow true e => [mark '&', word "mut"] ++ trees e
  | .borrow false e => [mark '&'] ++ trees e
  | .negate e => [mark '!'] ++ trees e
  | .either a b => trees a ++ [mark '|', mark '|'] ++ trees b
  | .equal a b => trees a ++ [mark '=', mark '='] ++ trees b
  | .propagate e => trees e ++ [mark '?']
  | .await e => trees e ++ [mark '.', word "await"]
  | .awaitBelow e => trees e ++ [mark '.', word "await"]
  | .record type fields => treesOf type ++ [.group .curly (fieldTrees fields)]
  | .pair a b => [.group .round (trees a ++ [mark ','] ++ trees b)]
  | .closure parameter type body =>
    [mark '|'] ++ treesOf parameter ++ [mark ':'] ++ type.trees ++ [mark '|', .group .curly (trees body)]
  | .choice subject arms => [word "match"] ++ trees subject ++ [.group .curly (armTrees arms)]

def allTrees : List Expr → List (List TokenTree)
  | [] => []
  | e :: es => trees e :: allTrees es

def fieldTrees : List (String × Expr) → List TokenTree
  | [] => []
  | (name, e) :: rest => treesOf name ++ [mark ':'] ++ trees e ++ [mark ','] ++ fieldTrees rest

def armTrees : List (String × Expr) → List TokenTree
  | [] => []
  | (pattern, e) :: rest =>
    treesOf pattern ++ [mark '=', mark '>'] ++ trees e ++ [mark ','] ++ armTrees rest

end

mutual

/-- The texts in an expression can be read. -/
def Readable : Expr → Prop
  | .place text => IsReadable text
  | .literal content => IsClean content
  | .call function arguments => IsReadable function ∧ AllReadable arguments
  | .method object name arguments => object.Readable ∧ IsReadable name ∧ AllReadable arguments
  | .borrow _ e => e.Readable
  | .negate e => e.Readable
  | .either a b => a.Readable ∧ b.Readable
  | .equal a b => a.Readable ∧ b.Readable
  | .propagate e => e.Readable
  | .await e => e.Readable
  | .awaitBelow e => e.Readable
  | .record type fields => IsReadable type ∧ AllNamedReadable fields
  | .pair a b => a.Readable ∧ b.Readable
  | .closure parameter type body => IsReadable parameter ∧ type.Readable ∧ body.Readable
  | .choice subject arms => subject.Readable ∧ AllNamedReadable arms

def AllReadable : List Expr → Prop
  | [] => True
  | e :: es => e.Readable ∧ AllReadable es

def AllNamedReadable : List (String × Expr) → Prop
  | [] => True
  | (name, e) :: rest => IsReadable name ∧ e.Readable ∧ AllNamedReadable rest

end

mutual

theorem reads_text (e : Expr) (h : e.Readable) (depth : Nat) : Reads (e.text depth) (flatten e.trees) := by
  cases e with
  | place name => exact h.1
  | literal content => exact (closed_literal h).reads
  | call function arguments =>
      have hround := closed_round (allRead_texts arguments h.2 depth)
      simpa [trees, text, String.append_assoc] using (h.1.1.closed hround (startsApart_round _)).reads
  | method object name arguments =>
      have hdot : Closed "." [.mark '.'] := by decide
      have hround := closed_round (allRead_texts arguments h.2.2 depth)
      have hname := ((reads_text object h.1 depth).closed hdot rfl).reads_append h.2.1.1
      have htext := hname.closed hround (startsApart_round _)
      simpa [trees, text, String.append_assoc] using htext.reads
  | borrow mutable e =>
      have he := reads_text e h depth
      cases mutable with
      | true =>
          simpa [trees, text] using closed_mutable.reads_append he
      | false =>
          simpa [trees, text] using closed_reference.reads_append he
  | negate e =>
      have hmark : Closed "!" [.mark '!'] := by decide
      simpa [trees, text] using hmark.reads_append (reads_text e h depth)
  | either a b =>
      have hmark : Closed " || " [.mark '|', .mark '|'] := by decide
      have htext := ((reads_text a h.1 depth).closed hmark rfl).reads_append (reads_text b h.2 depth)
      simpa [trees, text] using htext
  | equal a b =>
      have hmark : Closed " == " [.mark '=', .mark '='] := by decide
      have htext := ((reads_text a h.1 depth).closed hmark rfl).reads_append (reads_text b h.2 depth)
      simpa [trees, text] using htext
  | propagate e =>
      have hmark : Closed "?" [.mark '?'] := by decide
      simpa [trees, text] using ((reads_text e h depth).closed hmark rfl).reads
  | await e =>
      simpa [trees, text] using (reads_text e h depth).append reads_await rfl
  | awaitBelow e =>
      have hbelow := ((reads_text e h depth).closed closed_newline rfl).append (closed_indent depth)
      simpa [trees, text] using hbelow.reads_append reads_await
  | record type fields =>
      have hfields := closed_fieldLines fields h.2 (depth + 1)
      simpa [trees, text] using (h.1.1.block hfields depth).reads
  | pair a b =>
      have hfirst := (closed_roundStart.reads_append (reads_text a h.1 depth)).closed closed_comma rfl
      have htext := (hfirst.reads_append (reads_text b h.2 depth)).closed closed_roundEnd rfl
      simpa [trees, text] using htext.reads
  | closure parameter type body =>
      have hbar : Closed "|" [.mark '|'] := by decide
      have hopen : Closed "| \x7b\n" [.mark '|', .mark '\x7b'] := by decide
      have htype := ((hbar.reads_append h.1.1).closed closed_colon rfl).reads_append (type.reads_text h.2.1)
      have hbody := ((htype.closed hopen rfl).append (closed_indent (depth + 1))).reads_append
        (reads_text body h.2.2 (depth + 1))
      have htext := ((hbody.closed closed_newline rfl).append (closed_indent depth)).append closed_blockEnd
      simpa [trees, text] using htext.reads
  | choice subject arms =>
      have hword : Closed "match " [.word "match"] := by decide
      have hsubject := hword.reads_append (reads_text subject h.1 depth)
      simpa [trees, text] using (hsubject.block (closed_armLines arms h.2 (depth + 1)) depth).reads

theorem allRead_texts (es : List Expr) (h : AllReadable es) (depth : Nat) :
    AllRead (texts depth es) (allTrees es) := by
  cases es with
  | nil => exact .nil
  | cons e es => exact .cons (reads_text e h.1 depth) (allRead_texts es h.2 depth)

theorem closed_fieldLines (fields : List (String × Expr)) (h : AllNamedReadable fields) (depth : Nat) :
    Closed (fieldLines depth fields) (flatten (fieldTrees fields)) := by
  match fields, h with
  | [], _ => exact show Closed "" [] by decide
  | (name, e) :: rest, h =>
      have hname := ((closed_indent depth).reads_append h.1.1).closed closed_colon rfl
      have hfield := (hname.reads_append (reads_text e h.2.1 depth)).closed closed_lineComma rfl
      simpa [fieldTrees, fieldLines] using hfield.append (closed_fieldLines rest h.2.2 depth)

theorem closed_armLines (arms : List (String × Expr)) (h : AllNamedReadable arms) (depth : Nat) :
    Closed (armLines depth arms) (flatten (armTrees arms)) := by
  match arms, h with
  | [], _ => exact show Closed "" [] by decide
  | (pattern, e) :: rest, h =>
      have harrow : Closed " => " [.mark '=', .mark '>'] := by decide
      have hpattern := ((closed_indent depth).reads_append h.1.1).closed harrow rfl
      have harm := (hpattern.reads_append (reads_text e h.2.1 depth)).closed closed_lineComma rfl
      simpa [armTrees, armLines] using harm.append (closed_armLines rest h.2.2 depth)

end

mutual

theorem arePlain_trees (e : Expr) (h : e.Readable) : ArePlain e.trees := by
  cases e with
  | place name => exact h.2
  | literal content => simp [trees, Token.role]
  | call function arguments => simp [trees, h.1.2, arePlain_commas (arePlain_allTrees arguments h.2)]
  | method object name arguments =>
      have harguments := arePlain_commas (arePlain_allTrees arguments h.2.2)
      simp [trees, Token.role, arePlain_trees object h.1, h.2.1.2, harguments]
  | borrow mutable e =>
      have he := arePlain_trees e h
      cases mutable <;> simp [trees, Token.role, he]
  | negate e => simp [trees, Token.role, arePlain_trees e h]
  | either a b => simp [trees, Token.role, arePlain_trees a h.1, arePlain_trees b h.2]
  | equal a b => simp [trees, Token.role, arePlain_trees a h.1, arePlain_trees b h.2]
  | propagate e => simp [trees, Token.role, arePlain_trees e h]
  | await e => simp [trees, Token.role, arePlain_trees e h]
  | awaitBelow e => simp [trees, Token.role, arePlain_trees e h]
  | record type fields => simp [trees, h.1.2, arePlain_fieldTrees fields h.2]
  | pair a b => simp [trees, Token.role, arePlain_trees a h.1, arePlain_trees b h.2]
  | closure parameter type body =>
      simp [trees, Token.role, h.1.2, type.arePlain_trees h.2.1, arePlain_trees body h.2.2]
  | choice subject arms => simp [trees, arePlain_trees subject h.1, arePlain_armTrees arms h.2]

theorem arePlain_allTrees (es : List Expr) (h : AllReadable es) : ∀ ts ∈ allTrees es, ArePlain ts := by
  cases es with
  | nil => simp [allTrees]
  | cons e es =>
      rw [allTrees]
      exact List.forall_mem_cons.mpr ⟨arePlain_trees e h.1, arePlain_allTrees es h.2⟩

theorem arePlain_fieldTrees (fields : List (String × Expr)) (h : AllNamedReadable fields) :
    ArePlain (fieldTrees fields) := by
  match fields, h with
  | [], _ => trivial
  | (name, e) :: rest, h =>
      simp [fieldTrees, Token.role, h.1.2, arePlain_trees e h.2.1, arePlain_fieldTrees rest h.2.2]

theorem arePlain_armTrees (arms : List (String × Expr)) (h : AllNamedReadable arms) :
    ArePlain (armTrees arms) := by
  match arms, h with
  | [], _ => trivial
  | (pattern, e) :: rest, h =>
      simp [armTrees, Token.role, h.1.2, arePlain_trees e h.2.1, arePlain_armTrees rest h.2.2]

end

end Expr

/-! ## Statements -/

namespace Stmt

mutual

/-- The token trees of a statement. -/
def trees : Stmt → List TokenTree
  | .bind pattern none e => [word "let"] ++ treesOf pattern ++ [mark '='] ++ e.trees ++ [mark ';']
  | .bind pattern (some type) e =>
    [word "let"] ++ treesOf pattern ++ [mark ':'] ++ type.trees ++ [mark '='] ++ e.trees ++ [mark ';']
  | .bindElse pattern e otherwise =>
    [word "let"] ++ treesOf pattern ++ [mark '='] ++ e.trees ++
      [word "else", .group .curly (allTrees otherwise), mark ';']
  | .assign place e => treesOf place ++ [mark '='] ++ e.trees ++ [mark ';']
  | .run e => e.trees ++ [mark ';']
  | .value e => e.trees
  | .giveBack e => [word "return"] ++ e.trees ++ [mark ';']
  | .whenTrue condition body [] => [word "if"] ++ condition.trees ++ [.group .curly (allTrees body)]
  | .whenTrue condition body (s :: otherwise) =>
    [word "if"] ++ condition.trees ++ [.group .curly (allTrees body), word "else",
      .group .curly (allTrees (s :: otherwise))]
  | .whenMatches pattern subject body =>
    [word "if", word "let"] ++ treesOf pattern ++ [mark '='] ++ subject.trees ++
      [.group .curly (allTrees body)]
  | .forEach item items body =>
    [word "for"] ++ treesOf item ++ [word "in"] ++ items.trees ++ [.group .curly (allTrees body)]

def allTrees : List Stmt → List TokenTree
  | [] => []
  | s :: rest => trees s ++ allTrees rest

end

mutual

/-- The texts in a statement can be read. -/
def Readable : Stmt → Prop
  | .bind pattern type e => IsReadable pattern ∧ (∀ t ∈ type, t.Readable) ∧ e.Readable
  | .bindElse pattern e otherwise => IsReadable pattern ∧ e.Readable ∧ AllReadable otherwise
  | .assign place e => IsReadable place ∧ e.Readable
  | .run e => e.Readable
  | .value e => e.Readable
  | .giveBack e => e.Readable
  | .whenTrue condition body otherwise =>
    condition.Readable ∧ AllReadable body ∧ AllReadable otherwise
  | .whenMatches pattern subject body => IsReadable pattern ∧ subject.Readable ∧ AllReadable body
  | .forEach item items body => IsReadable item ∧ items.Readable ∧ AllReadable body

def AllReadable : List Stmt → Prop
  | [] => True
  | s :: rest => s.Readable ∧ AllReadable rest

end

theorem allTrees_append (xs ys : List Stmt) : allTrees (xs ++ ys) = allTrees xs ++ allTrees ys := by
  induction xs with
  | nil => rfl
  | cons x xs ih => rw [List.cons_append, allTrees, allTrees, ih, List.append_assoc]

theorem allReadable_append {xs ys : List Stmt} :
    AllReadable (xs ++ ys) ↔ AllReadable xs ∧ AllReadable ys := by
  induction xs with
  | nil => simp [AllReadable]
  | cons x xs ih => simp [AllReadable, ih, and_assoc]

mutual

theorem reads_text (s : Stmt) (h : s.Readable) (depth : Nat) : Reads (s.text depth) (flatten s.trees) := by
  have hindent := closed_indent depth
  have hend : Closed ";" [.mark ';'] := by decide
  cases s with
  | bind pattern type e =>
      have hpattern := (hindent.append closed_let).reads_append h.1.1
      have he := e.reads_text h.2.2 depth
      cases type with
      | none =>
          have htext := ((hpattern.closed closed_equals rfl).reads_append he).closed hend rfl
          simpa [trees, text] using htext.reads
      | some type =>
          have htype := (hpattern.closed closed_colon rfl).reads_append (type.reads_text (h.2.1 type rfl))
          have htext := ((htype.closed closed_equals rfl).reads_append he).closed hend rfl
          simpa [trees, text, String.append_assoc] using htext.reads
  | bindElse pattern e otherwise =>
      have helse : Closed " else \x7b\n" [.word "else", .mark '\x7b'] := by decide
      have hclose : Closed "\x7d;" [.mark '\x7d', .mark ';'] := by decide
      have hpattern := (hindent.append closed_let).reads_append h.1.1
      have he := (hpattern.closed closed_equals rfl).reads_append (e.reads_text h.2.1 depth)
      have hlines := (he.closed helse rfl).append (closed_lines otherwise h.2.2 (depth + 1))
      simpa [trees, text] using ((hlines.append hindent).append hclose).reads
  | assign place e =>
      have hplace := (hindent.reads_append h.1.1).closed closed_equals rfl
      have htext := (hplace.reads_append (e.reads_text h.2 depth)).closed hend rfl
      simpa [trees, text] using htext.reads
  | run e =>
      have htext := (hindent.reads_append (e.reads_text h depth)).closed hend rfl
      simpa [trees, text] using htext.reads
  | value e => simpa [trees, text] using hindent.reads_append (e.reads_text h depth)
  | giveBack e =>
      have hreturn : Closed "return " [.word "return"] := by decide
      have htext := ((hindent.append hreturn).reads_append (e.reads_text h depth)).closed hend rfl
      simpa [trees, text] using htext.reads
  | whenTrue condition body otherwise =>
      have hif : Closed "if " [.word "if"] := by decide
      have hcondition := (hindent.append hif).reads_append (condition.reads_text h.1 depth)
      have hbody := closed_lines body h.2.1 (depth + 1)
      cases otherwise with
      | nil => simpa [trees, text] using (hcondition.block hbody depth).reads
      | cons s otherwise =>
          have helse : Closed "\x7d else \x7b\n" [.mark '\x7d', .word "else", .mark '\x7b'] := by decide
          have hfirst := (((hcondition.closed closed_blockStart rfl).append hbody).append hindent).append helse
          have hlines := hfirst.append (closed_lines (s :: otherwise) h.2.2 (depth + 1))
          simpa [trees, text] using ((hlines.append hindent).append closed_blockEnd).reads
  | whenMatches pattern subject body =>
      have hif : Closed "if let " [.word "if", .word "let"] := by decide
      have hpattern := ((hindent.append hif).reads_append h.1.1).closed closed_equals rfl
      have hsubject := hpattern.reads_append (subject.reads_text h.2.1 depth)
      simpa [trees, text] using (hsubject.block (closed_lines body h.2.2 (depth + 1)) depth).reads
  | forEach item items body =>
      have hfor : Closed "for " [.word "for"] := by decide
      have hin : Closed " in " [.word "in"] := by decide
      have hitem := ((hindent.append hfor).reads_append h.1.1).closed hin rfl
      have hitems := hitem.reads_append (items.reads_text h.2.1 depth)
      simpa [trees, text] using (hitems.block (closed_lines body h.2.2 (depth + 1)) depth).reads

theorem closed_lines (stmts : List Stmt) (h : AllReadable stmts) (depth : Nat) :
    Closed (lines depth stmts) (flatten (allTrees stmts)) := by
  cases stmts with
  | nil => exact show Closed "" [] by decide
  | cons s rest =>
      have htext := ((reads_text s h.1 depth).closed closed_newline rfl).append (closed_lines rest h.2 depth)
      simpa [allTrees, lines] using htext

end

mutual

theorem arePlain_trees (s : Stmt) (h : s.Readable) : ArePlain s.trees := by
  cases s with
  | bind pattern type e =>
      cases type with
      | none => simp [trees, Token.role, h.1.2, e.arePlain_trees h.2.2]
      | some type => 
          simp [trees, Token.role, h.1.2, type.arePlain_trees (h.2.1 type rfl), e.arePlain_trees h.2.2]
  | bindElse pattern e otherwise =>
      simp [trees, Token.role, h.1.2, e.arePlain_trees h.2.1, arePlain_allTrees otherwise h.2.2]
  | assign place e => simp [trees, Token.role, h.1.2, e.arePlain_trees h.2]
  | run e => simp [trees, Token.role, e.arePlain_trees h]
  | value e => simpa [trees] using e.arePlain_trees h
  | giveBack e => simp [trees, Token.role, e.arePlain_trees h]
  | whenTrue condition body otherwise =>
      have hcondition := condition.arePlain_trees h.1
      have hbody := arePlain_allTrees body h.2.1
      cases otherwise with
      | nil => simp [trees, hcondition, hbody]
      | cons s otherwise => 
          simp [trees, hcondition, hbody, arePlain_allTrees (s :: otherwise) h.2.2]
  | whenMatches pattern subject body =>
      simp [trees, Token.role, h.1.2, subject.arePlain_trees h.2.1, arePlain_allTrees body h.2.2]
  | forEach item items body =>
      simp [trees, h.1.2, items.arePlain_trees h.2.1, arePlain_allTrees body h.2.2]

theorem arePlain_allTrees (stmts : List Stmt) (h : AllReadable stmts) : ArePlain (allTrees stmts) := by
  cases stmts with
  | nil => trivial
  | cons s rest => simp [allTrees, arePlain_trees s h.1, arePlain_allTrees rest h.2]

end

end Stmt

/-! ## Declarations -/

theorem closed_docLine {doc : String} (h : '\n' ∉ doc.toList) : Closed (docLine doc) [] :=
  closed_comment (by decide) h

theorem closed_commentLine {line : String} (h : '\n' ∉ line.toList) : Closed (commentLine line) [] := by
  unfold commentLine
  split
  · decide
  · exact closed_comment (by decide) h

/-- The line of a parameter. -/
def parameterTrees (p : String × Ty) : List TokenTree := treesOf p.1 ++ [mark ':'] ++ p.2.trees ++ [mark ',']

theorem closed_parameter {p : String × Ty} (h : IsReadable p.1 ∧ p.2.Readable) :
    Closed ("    " ++ parameterText p ++ ",\n") (flatten (parameterTrees p)) := by
  have hname := (closed_margin.reads_append h.1.1).closed closed_colon rfl
  have htext := (hname.reads_append (p.2.reads_text h.2)).closed closed_lineComma rfl
  simpa [parameterTrees, parameterText, String.append_assoc] using htext

namespace Function

def resultTrees : Option Ty → List TokenTree
  | none => []
  | some type => [mark '-', mark '>'] ++ type.trees

def boundTrees : Option (List String) → List TokenTree
  | none => []
  | some bounds => [word "where", word "B", mark ':'] ++ separated [mark '+'] (bounds.map treesOf) ++
      [mark '+', mark '?', word "Sized", mark ',']

/-- The token trees of a function. -/
def trees (f : Function) : List TokenTree :=
  f.attributes.flatMap treesOf ++ [word "pub", word "async", word "fn"] ++ treesOf f.name ++
    (if f.bounds.isSome then [mark '<', word "B", mark '>'] else []) ++
    [.group .round (f.parameters.flatMap parameterTrees)] ++ resultTrees f.result ++ boundTrees f.bounds ++
    [.group .curly (Stmt.allTrees f.body)]

/-- The texts in a function can be read, and those in comments have no line ends. -/
structure Readable (f : Function) : Prop where
  docs : ∀ doc ∈ f.docs, '\n' ∉ doc.toList
  attributes : ∀ text ∈ f.attributes, IsReadable text
  name : IsReadable f.name
  parameters : ∀ p ∈ f.parameters, IsReadable p.1 ∧ p.2.Readable
  result : ∀ t ∈ f.result, t.Readable
  bounds : ∀ bounds ∈ f.bounds, ∀ bound ∈ bounds, IsReadable bound
  body : Stmt.AllReadable f.body

variable {f : Function} {start : String} {ts : List Token}

theorem reads_name (h : f.Readable) : Reads (Text.join "" (f.docs.map docLine) ++
    Text.join "" (f.attributes.map (· ++ "\n")) ++ "pub async fn " ++ f.name)
    (flatten (f.attributes.flatMap treesOf ++ [word "pub", word "async", word "fn"] ++ treesOf f.name)) := by
  have hfn : Closed "pub async fn " [.word "pub", .word "async", .word "fn"] := by decide
  have hdocs := closed_join docLine (fun _ => []) fun doc hdoc => closed_docLine (h.docs doc hdoc)
  have hattributes := closed_join (· ++ "\n") treesOf fun text htext => by
    simpa using (h.attributes text htext).1.closed closed_newline rfl
  have hnone : f.docs.flatMap (fun _ => []) = ([] : List TokenTree) :=
    List.flatMap_eq_nil_iff.mpr fun _ _ => rfl
  simpa [hnone] using ((hdocs.append hattributes).append hfn).reads_append h.name.1

theorem closed_parameters (h : f.Readable) (hstart : Reads start ts) :
    Closed (start ++ (if f.bounds.isSome then "<B>" else "") ++ "(\n" ++
        Text.join "" (f.parameters.map fun p => "    " ++ parameterText p ++ ",\n") ++ ")")
      (ts ++ flatten ((if f.bounds.isSome then [mark '<', word "B", mark '>'] else []) ++
        [.group .round (f.parameters.flatMap parameterTrees)])) := by
  have hopen : Closed "(\n" [.mark '('] := by decide
  have hparameters := closed_join (fun p => "    " ++ parameterText p ++ ",\n") parameterTrees
    fun p hp => closed_parameter (h.parameters p hp)
  split
  · have hbound : Closed "<B>" [.mark '<', .word "B", .mark '>'] := by decide
    have hname := (hstart.closed hbound rfl).append hopen
    simpa using (hname.append hparameters).append closed_roundEnd
  · simpa using ((hstart.closed hopen rfl).append hparameters).append closed_roundEnd

theorem reads_result (h : f.Readable) (hstart : Closed start ts) :
    Reads (start ++ f.result.elim "" fun t => " -> " ++ t.text) (ts ++ flatten (resultTrees f.result)) := by
  cases hresult : f.result with
  | none => simpa [resultTrees] using hstart.reads
  | some type =>
      have harrow : Closed " -> " [.mark '-', .mark '>'] := by decide
      have htype := type.reads_text (h.result type hresult)
      simpa [resultTrees, String.append_assoc] using (hstart.append harrow).reads_append htype

theorem closed_bounds (h : f.Readable) (hstart : Reads start ts) :
    Closed (start ++ (match f.bounds with
        | none => " \x7b\n"
        | some bounds => "\nwhere\n    B: " ++ Text.join " + " bounds ++ " + ?Sized,\n\x7b\n"))
      (ts ++ flatten (boundTrees f.bounds) ++ [.mark '\x7b']) := by
  cases hbounds : f.bounds with
  | none =>
      simpa [boundTrees] using hstart.closed closed_blockStart rfl
  | some bounds =>
      have hwhere : Closed "\nwhere\n    B: " [.word "where", .word "B", .mark ':'] := by decide
      have hplus : Closed " + " [.mark '+'] := by decide
      have hopen : Closed " + ?Sized,\n\x7b\n"
          [.mark '+', .mark '?', .word "Sized", .mark ',', .mark '\x7b'] := by decide
      have htexts : AllRead bounds (bounds.map treesOf) := by
        rw [AllRead, List.forall₂_map_right_iff, List.forall₂_same]
        exact fun bound hbound => (h.bounds bounds hbounds bound hbound).1
      have hjoin := reads_join [mark '+'] hplus rfl htexts
      have htext := ((hstart.closed hwhere rfl).reads_append hjoin).closed hopen rfl
      simpa [boundTrees, String.append_assoc] using htext

theorem closed_text (h : f.Readable) : Closed f.text (flatten f.trees) := by
  have hclose : Closed "\x7d\n" [.mark '\x7d'] := by decide
  have hhead := closed_bounds h (reads_result h (closed_parameters h (reads_name h)))
  have htext : Closed f.text _ := (hhead.append (Stmt.closed_lines f.body h.body 1)).append hclose
  simpa [trees] using htext

theorem arePlain_trees (h : f.Readable) : ArePlain f.trees := by
  have hattributes : ArePlain (f.attributes.flatMap treesOf) :=
    arePlain_flatMap fun text htext => (h.attributes text htext).2
  have hparameters : ArePlain (f.parameters.flatMap parameterTrees) := arePlain_flatMap fun p hp => by
    simp [parameterTrees, Token.role, (h.parameters p hp).1.2, p.2.arePlain_trees (h.parameters p hp).2]
  have hresult : ArePlain (resultTrees f.result) := by
    cases hresult : f.result with
    | none => trivial
    | some type => simp [resultTrees, Token.role, type.arePlain_trees (h.result type hresult)]
  have hbody := Stmt.arePlain_allTrees f.body h.body
  cases hbounds : f.bounds with
  | none => simp [trees, boundTrees, hbounds, hattributes, h.name.2, hparameters, hresult, hbody]
  | some bounds =>
      have hjoin : ArePlain (separated [mark '+'] (bounds.map treesOf)) := by
        refine arePlain_separated (by simp [Token.role]) ?_
        rw [List.forall_mem_map]
        exact fun bound hbound => (h.bounds bounds hbounds bound hbound).2
      simp [trees, boundTrees, hbounds, Token.role, hattributes, h.name.2, hparameters, hresult, hjoin, hbody]

end Function

namespace Item

/-- The token trees of a table. -/
def tableTrees (isPublic : Bool) (name : String) (item : Ty) (rows : List (List String × Expr)) :
    List TokenTree :=
  (if isPublic then [word "pub"] else []) ++ [word "const"] ++ treesOf name ++
    [mark ':', mark '&', .group .square item.trees, mark '=', mark '&',
      .group .square (rows.flatMap fun row => row.2.trees ++ [mark ',']), mark ';']

/-- A table can be read, apart from comments. -/
structure ReadableTable (doc name : String) (item : Ty) (rows : List (List String × Expr)) : Prop where
  doc : '\n' ∉ doc.toList
  name : IsReadable name
  item : item.Readable
  comments : ∀ row ∈ rows, ∀ line ∈ row.1, '\n' ∉ line.toList
  rows : ∀ row ∈ rows, row.2.Readable

variable {doc name : String} {item : Ty} {rows : List (List String × Expr)}

theorem closed_table (h : ReadableTable doc name item rows) (isPublic : Bool) :
    Closed (Item.table doc isPublic name item rows).text (flatten (tableTrees isPublic name item rows)) := by
  have hopen : Closed " = &[\n" [.mark '=', .mark '&', .mark '['] := by decide
  have hclose : Closed "];\n" [.mark ']', .mark ';'] := by decide
  have hrow : ∀ row ∈ rows, Closed (Text.join "" (row.1.map commentLine) ++ "    " ++ row.2.text 1 ++ ",\n")
      (flatten (row.2.trees ++ [mark ','])) := by
    intro row hrow
    have hcomments := closed_join commentLine (fun _ => []) fun line closed_newline =>
      closed_commentLine (h.comments row hrow line closed_newline)
    have hnone : row.1.flatMap (fun _ => []) = ([] : List TokenTree) :=
      List.flatMap_eq_nil_iff.mpr fun _ _ => rfl
    have htext := (hcomments.append closed_margin).reads_append (row.2.reads_text (h.rows row hrow) 1)
    simpa [hnone] using htext.closed closed_lineComma rfl
  have hrows := closed_join _ (fun row : List String × Expr => row.2.trees ++ [mark ',']) hrow
  have hitem := Ty.reads_text (.borrowed false (.slice item)) h.item
  have hconst : Closed (docLine doc ++ if isPublic then "pub const " else "const ")
      (flatten ((if isPublic then [word "pub"] else []) ++ [word "const"])) := by
    refine (closed_docLine h.doc).append ?_
    cases isPublic <;> decide
  have hname := ((hconst.reads_append h.name.1).closed closed_colon rfl).reads_append hitem
  have htext := (((hname.closed hopen rfl).append hrows).append hclose).append closed_newline
  simpa [tableTrees, Item.text, Item.lines, Ty.trees] using htext

theorem arePlain_tableTrees (h : ReadableTable doc name item rows) (isPublic : Bool) :
    ArePlain (tableTrees isPublic name item rows) := by
  have hrows : ArePlain (rows.flatMap fun row => row.2.trees ++ [mark ',']) :=
    arePlain_flatMap fun row hrow => by simp [Token.role, row.2.arePlain_trees (h.rows row hrow)]
  cases isPublic <;> simp [tableTrees, Token.role, h.name.2, item.arePlain_trees h.item, hrows]

end Item

end RegionGateway.Rust
