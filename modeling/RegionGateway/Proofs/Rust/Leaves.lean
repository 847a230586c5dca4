import RegionGateway.Proofs.Rust.Mentions

/-!
# The words of printed trees

The texts that stand in a type, an expression, a statement or a declaration (`Item.leaves`). A word that is
no word of the layout is found in what is printed for a tree if it is found in one of these texts
(`Item.hits_text`).
-/

namespace RegionGateway.Rust

/-! ## The texts of the layout -/

theorem isGlue_commaLine : IsGlue ",\n" := isGlue_of rfl (by decide)
theorem isGlue_newline : IsGlue "\n" := isGlue_of rfl (by decide)
theorem isGlue_comma : IsGlue ", " := isGlue_of rfl (by decide)
theorem isGlue_blockStart : IsGlue " \x7b\n" := isGlue_of rfl (by decide)
theorem isGlue_equals : IsGlue " = " := isGlue_of rfl (by decide)
theorem isGlue_roundStart : IsGlue "(" := isGlue_of rfl (by decide)
theorem isGlue_roundEnd : IsGlue ")" := isGlue_of rfl (by decide)
theorem isGlue_quote : IsGlue "\"" := isGlue_of rfl (by decide)
theorem isGlue_reference : IsGlue "&" := isGlue_of rfl (by decide)
theorem isGlue_semicolon : IsGlue ";" := isGlue_of rfl (by decide)
theorem isOpening_mutable : IsOpening "&mut " := isOpening_of rfl (by decide)
theorem isOpening_let : IsOpening "let " := isOpening_of rfl (by decide)
theorem isGlue_blockEnd : IsGlue "\x7d" := isGlue_of rfl (by decide)

variable {p : Mention → Bool}

/-! ## Types -/

namespace Ty

mutual
/-- The texts that stand in a type. -/
def leaves : Ty → List String
  | .name text => [text]
  | .inModule module text => [module ++ "::" ++ text]
  | .apply head arguments => head :: allLeaves arguments
  | .borrowed _ target => leaves target
  | .dynamic text => [text]
  | .slice item => leaves item
  | .tuple items => allLeaves items

def allLeaves : List Ty → List String
  | [] => []
  | type :: types => leaves type ++ allLeaves types
end

mutual

theorem hits_text (hp : Ignores p) (type : Ty) : hits p type.text = type.leaves.any (hits p) := by
  cases type with
  | name name => simp [text, leaves]
  | inModule module name => simp [text, leaves]
  | apply head arguments =>
      have hopen : IsGlue "<" := isGlue_of rfl (by decide)
      have hclose : IsGlue ">" := isGlue_of rfl (by decide)
      rw [text, leaves, String.append_assoc, String.append_assoc, hits_glue hp hopen,
        hits_closing hp hclose.toIsClosing, hits_join hp isGlue_comma, hits_texts hp, List.any_cons]
  | borrowed mutable target =>
      cases mutable with
      | true => exact (hits_opening hp isOpening_mutable).trans (hits_text hp target)
      | false => exact (hits_opening hp isGlue_reference.toIsOpening).trans (hits_text hp target)
  | dynamic name =>
      have hdyn : IsOpening "dyn " := isOpening_of rfl (by decide)
      simp [text, leaves, hits_opening hp hdyn]
  | slice item =>
      have hopen : IsOpening "[" := isOpening_of rfl (by decide)
      have hclose : IsClosing "]" := isClosing_of rfl (by decide)
      rw [text, leaves, hits_closing hp hclose, hits_opening hp hopen, hits_text hp item]
  | tuple items =>
      rw [text, leaves, hits_closing hp isGlue_roundEnd.toIsClosing, hits_opening hp isGlue_roundStart.toIsOpening,
        hits_join hp isGlue_comma, hits_texts hp items]

theorem hits_texts (hp : Ignores p) (types : List Ty) :
    (texts types).any (hits p) = (allLeaves types).any (hits p) := by
  cases types with
  | nil => rfl
  | cons type types => rw [texts, allLeaves, List.any_cons, List.any_append, hits_text hp, hits_texts hp]

end

end Ty

/-! ## Expressions -/

namespace Expr

mutual
/-- The texts that stand in an expression. -/
def leaves : Expr → List String
  | .place text => [text]
  | .literal content => [content]
  | .call function arguments => function :: allLeaves arguments
  | .method object name arguments => leaves object ++ name :: allLeaves arguments
  | .borrow _ e | .negate e | .propagate e | .await e | .awaitBelow e => leaves e
  | .either a b | .equal a b | .pair a b => leaves a ++ leaves b
  | .record type fields => type :: fieldLeaves fields
  | .closure parameter type body => (parameter ++ ":") :: (type.leaves ++ leaves body)
  | .choice subject arms => leaves subject ++ armLeaves arms

def allLeaves : List Expr → List String
  | [] => []
  | e :: es => leaves e ++ allLeaves es

def fieldLeaves : List (String × Expr) → List String
  | [] => []
  | (name, e) :: rest => (name ++ ":") :: (leaves e ++ fieldLeaves rest)

def armLeaves : List (String × Expr) → List String
  | [] => []
  | (pattern, e) :: rest => pattern :: (leaves e ++ armLeaves rest)
end

/-- Arguments between parentheses. -/
theorem hits_round (hp : Ignores p) {name : String} {arguments : List String} :
    hits p (name ++ ("(" ++ (Text.join ", " arguments ++ ")"))) = (hits p name || arguments.any (hits p)) := by
  rw [hits_glue hp isGlue_roundStart, hits_closing hp isGlue_roundEnd.toIsClosing, hits_join hp isGlue_comma]

mutual

theorem hits_text (hp : Ignores p) (depth : Nat) (e : Expr) : hits p (e.text depth) = e.leaves.any (hits p) := by
  cases e with
  | place name => simp [text, leaves]
  | literal content =>
      simp [text, leaves, hits_closing hp isGlue_quote.toIsClosing, hits_opening hp isGlue_quote.toIsOpening]
  | call function arguments =>
      rw [text, leaves, String.append_assoc, String.append_assoc, hits_round hp, hits_texts hp, List.any_cons]
  | method object name arguments =>
      have hdot : IsGlue "." := isGlue_of rfl (by decide)
      simp only [text, leaves, String.append_assoc]
      rw [hits_glue hp hdot, hits_round hp, hits_text hp, hits_texts hp, List.any_append, List.any_cons]
  | borrow mutable e =>
      cases mutable with
      | true => exact (hits_opening hp isOpening_mutable).trans (hits_text hp depth e)
      | false => exact (hits_opening hp isGlue_reference.toIsOpening).trans (hits_text hp depth e)
  | negate e =>
      have hmark : IsOpening "!" := isOpening_of rfl (by decide)
      rw [text, leaves, hits_opening hp hmark, hits_text hp]
  | either a b =>
      have hmark : IsGlue " || " := isGlue_of rfl (by decide)
      rw [text, leaves, String.append_assoc, hits_glue hp hmark, hits_text hp, hits_text hp, List.any_append]
  | equal a b =>
      have hmark : IsGlue " == " := isGlue_of rfl (by decide)
      rw [text, leaves, String.append_assoc, hits_glue hp hmark, hits_text hp, hits_text hp, List.any_append]
  | propagate e =>
      have hmark : IsClosing "?" := isClosing_of rfl (by decide)
      rw [text, leaves, hits_closing hp hmark, hits_text hp]
  | await e =>
      have hawait : IsClosing ".await" := isClosing_of rfl (by decide)
      rw [text, leaves, hits_closing hp hawait, hits_text hp]
  | awaitBelow e =>
      have hawait : IsClosing ".await" := isClosing_of rfl (by decide)
      simp only [text, leaves, String.append_assoc]
      rw [hits_glue hp isGlue_newline, hits_indent hp, hits_layout hp hawait.layout, hits_text hp, Bool.or_false]
  | record type fields =>
      simp only [text, leaves, String.append_assoc]
      rw [hits_glue hp isGlue_blockStart, hits_below hp depth isGlue_blockEnd.starts,
        hits_layout hp isGlue_blockEnd.layout, hits_fieldLines hp, Bool.or_false, List.any_cons]
  | pair a b =>
      rw [text, leaves, hits_closing hp isGlue_roundEnd.toIsClosing]
      simp only [String.append_assoc]
      rw [hits_opening hp isGlue_roundStart.toIsOpening, hits_glue hp isGlue_comma, hits_text hp, hits_text hp,
        List.any_append]
  | closure parameter type body =>
      have hbar : IsOpening "|" := isOpening_of rfl (by decide)
      have hopen : IsGlue "| \x7b\n" := isGlue_of rfl (by decide)
      simp only [text, leaves, String.append_assoc]
      rw [hits_opening hp hbar, hits_colon hp, hits_glue hp hopen, hits_indent hp, hits_glue hp isGlue_newline,
        hits_indent hp, hits_layout hp isGlue_blockEnd.layout, hits_text hp, type.hits_text hp, Bool.or_false,
        List.any_cons, List.any_append]
  | choice subject arms =>
      have hmatch : IsOpening "match " := isOpening_of rfl (by decide)
      simp only [text, leaves, String.append_assoc]
      rw [hits_opening hp hmatch, hits_glue hp isGlue_blockStart, hits_below hp depth isGlue_blockEnd.starts,
        hits_layout hp isGlue_blockEnd.layout, hits_text hp, hits_armLines hp, Bool.or_false, List.any_append]

theorem hits_texts (hp : Ignores p) (depth : Nat) (es : List Expr) :
    (texts depth es).any (hits p) = (allLeaves es).any (hits p) := by
  cases es with
  | nil => rfl
  | cons e es => rw [texts, allLeaves, List.any_cons, List.any_append, hits_text hp, hits_texts hp]

theorem hits_fieldLines (hp : Ignores p) (depth : Nat) (fields : List (String × Expr)) :
    hits p (fieldLines depth fields) = (fieldLeaves fields).any (hits p) := by
  cases fields with
  | nil => rfl
  | cons field rest =>
      simp only [fieldLines, fieldLeaves, String.append_assoc]
      rw [hits_indent hp, hits_colon hp, hits_glue hp isGlue_commaLine, hits_text hp, hits_fieldLines hp,
        List.any_cons, List.any_append]

theorem hits_armLines (hp : Ignores p) (depth : Nat) (arms : List (String × Expr)) :
    hits p (armLines depth arms) = (armLeaves arms).any (hits p) := by
  cases arms with
  | nil => rfl
  | cons arm rest =>
      have harrow : IsGlue " => " := isGlue_of rfl (by decide)
      simp only [armLines, armLeaves, String.append_assoc]
      rw [hits_indent hp, hits_glue hp harrow, hits_glue hp isGlue_commaLine, hits_text hp, hits_armLines hp,
        List.any_cons, List.any_append]

end

theorem allLeaves_places (texts : List String) : allLeaves (texts.map .place) = texts := by
  induction texts with
  | nil => rfl
  | cons text rest ih => exact congrArg (text :: ·) ih

theorem armLeaves_eq (arms : List (String × Expr)) :
    armLeaves arms = arms.flatMap fun arm => arm.1 :: arm.2.leaves := by
  induction arms with
  | nil => rfl
  | cons arm rest ih => rw [armLeaves, ih, List.flatMap_cons, List.cons_append]

end Expr

/-! ## Statements -/

namespace Stmt

mutual
/-- The texts that stand in a statement. -/
def leaves : Stmt → List String
  | .bind pattern none e => pattern :: e.leaves
  | .bind pattern (some type) e => (pattern ++ ":") :: (type.leaves ++ e.leaves)
  | .bindElse pattern e otherwise => pattern :: (e.leaves ++ allLeaves otherwise)
  | .assign place e => place :: e.leaves
  | .run e | .value e | .giveBack e => e.leaves
  | .whenTrue condition body otherwise => condition.leaves ++ (allLeaves body ++ allLeaves otherwise)
  | .whenMatches pattern subject body => pattern :: (subject.leaves ++ allLeaves body)
  | .forEach item items body => item :: (items.leaves ++ allLeaves body)

/-- The texts that stand in statements. -/
def allLeaves : List Stmt → List String
  | [] => []
  | s :: rest => leaves s ++ allLeaves rest
end

mutual

theorem hits_text (hp : Ignores p) (depth : Nat) (s : Stmt) : hits p (s.text depth) = s.leaves.any (hits p) := by
  have hend := isGlue_blockEnd
  cases s with
  | bind pattern type e =>
      cases type with
      | none =>
          simp only [text, leaves, String.append_assoc, Option.elim, String.empty_append]
          rw [hits_indent hp, hits_opening hp isOpening_let, hits_glue hp isGlue_equals,
            hits_closing hp isGlue_semicolon.toIsClosing, e.hits_text hp, List.any_cons]
      | some type =>
          simp only [text, leaves, String.append_assoc, Option.elim]
          rw [hits_indent hp, hits_opening hp isOpening_let, hits_colon hp, hits_glue hp isGlue_equals,
            hits_closing hp isGlue_semicolon.toIsClosing, e.hits_text hp, type.hits_text hp, List.any_cons,
            List.any_append]
  | bindElse pattern e otherwise =>
      have helse : IsGlue " else \x7b\n" := isGlue_of rfl (by decide)
      have hstop : IsGlue "\x7d;" := isGlue_of rfl (by decide)
      simp only [text, leaves, String.append_assoc]
      rw [hits_indent hp, hits_opening hp isOpening_let, hits_glue hp isGlue_equals, hits_glue hp helse,
        hits_below hp depth hstop.starts, hits_layout hp hstop.layout, e.hits_text hp, hits_lines hp,
        Bool.or_false, List.any_cons, List.any_append]
  | assign place e =>
      simp only [text, leaves, String.append_assoc]
      rw [hits_indent hp, hits_glue hp isGlue_equals, hits_closing hp isGlue_semicolon.toIsClosing,
        e.hits_text hp, List.any_cons]
  | run e =>
      rw [text, leaves, hits_closing hp isGlue_semicolon.toIsClosing, hits_indent hp, e.hits_text hp]
  | value e => rw [text, leaves, hits_indent hp, e.hits_text hp]
  | giveBack e =>
      have hreturn : IsOpening "return " := isOpening_of rfl (by decide)
      simp only [text, leaves, String.append_assoc]
      rw [hits_indent hp, hits_opening hp hreturn, hits_closing hp isGlue_semicolon.toIsClosing, e.hits_text hp]
  | whenTrue condition body otherwise =>
      have hif : IsOpening "if " := isOpening_of rfl (by decide)
      have helse : IsGlue "\x7d else \x7b\n" := isGlue_of rfl (by decide)
      cases otherwise with
      | nil =>
          simp only [text, leaves, String.append_assoc]
          rw [hits_indent hp, hits_opening hp hif, hits_glue hp isGlue_blockStart, hits_below hp depth hend.starts,
            hits_layout hp hend.layout, condition.hits_text hp, hits_lines hp, allLeaves, List.append_nil,
            Bool.or_false, List.any_append]
      | cons s otherwise =>
          simp only [text, leaves, String.append_assoc]
          rw [hits_indent hp, hits_opening hp hif, hits_glue hp isGlue_blockStart,
            hits_below hp depth helse.starts.append, hits_opening hp helse.toIsOpening,
            hits_below hp depth hend.starts, hits_layout hp hend.layout, condition.hits_text hp, hits_lines hp,
            hits_lines hp (depth + 1) (s :: otherwise), Bool.or_false, List.any_append, List.any_append]
  | whenMatches pattern subject body =>
      have hif : IsOpening "if let " := isOpening_of rfl (by decide)
      simp only [text, leaves, String.append_assoc]
      rw [hits_indent hp, hits_opening hp hif, hits_glue hp isGlue_equals, hits_glue hp isGlue_blockStart,
        hits_below hp depth hend.starts, hits_layout hp hend.layout, subject.hits_text hp, hits_lines hp,
        Bool.or_false, List.any_cons, List.any_append]
  | forEach item items body =>
      have hfor : IsOpening "for " := isOpening_of rfl (by decide)
      have hin : IsGlue " in " := isGlue_of rfl (by decide)
      simp only [text, leaves, String.append_assoc]
      rw [hits_indent hp, hits_opening hp hfor, hits_glue hp hin, hits_glue hp isGlue_blockStart,
        hits_below hp depth hend.starts, hits_layout hp hend.layout, items.hits_text hp, hits_lines hp,
        Bool.or_false, List.any_cons, List.any_append]

theorem hits_lines (hp : Ignores p) (depth : Nat) (statements : List Stmt) :
    hits p (lines depth statements) = (allLeaves statements).any (hits p) := by
  cases statements with
  | nil => rfl
  | cons s rest =>
      rw [lines, allLeaves, String.append_assoc, hits_glue hp isGlue_newline, hits_text hp, hits_lines hp,
        List.any_append]

end

theorem allLeaves_append (a b : List Stmt) : allLeaves (a ++ b) = allLeaves a ++ allLeaves b := by
  induction a with
  | nil => rfl
  | cons s a ih => rw [List.cons_append, allLeaves, ih, allLeaves, List.append_assoc]

end Stmt

/-! ## Parts of declarations -/

section

variable (hp : Ignores p)
include hp

theorem hits_docLine (doc : String) : hits p (docLine doc) = hits p doc := by
  have hmark : IsOpening "/// " := isOpening_of rfl (by decide)
  rw [docLine, hits_closing hp isGlue_newline.toIsClosing, hits_opening hp hmark]

theorem hits_commentLine (line : String) : hits p (commentLine line) = hits p line := by
  have hempty : IsLayout "    //\n" := checks_of rfl rfl
  have hmark : IsOpening "    // " := isOpening_of rfl (by decide)
  unfold commentLine
  split
  · next h => rw [h, hits_layout hp hempty, hits_empty]
  · rw [hits_closing hp isGlue_newline.toIsClosing, hits_opening hp hmark]

theorem hits_result (result : Option Ty) {b : String} (h : StartsOpen b) :
    hits p ((result.elim "" fun t => " -> " ++ t.text) ++ b) =
      ((result.toList.flatMap Ty.leaves).any (hits p) || hits p b) := by
  have harrow : IsOpening " -> " := isOpening_of rfl (by decide)
  cases result with
  | none => simp
  | some type =>
      rw [Option.elim, String.append_assoc, hits_opening hp harrow, hits_append_left h, type.hits_text hp]
      simp

end

theorem endsOpen_docLine (doc : String) : EndsOpen (docLine doc) := isGlue_newline.ends.append

theorem endsOpen_commentLine (line : String) : EndsOpen (commentLine line) := by
  unfold commentLine
  split
  · exact checks_of rfl rfl
  · exact isGlue_newline.ends.append

/-- The texts that stand in parameters. -/
def Parameters.leaves (parameters : Parameters) : List String :=
  parameters.flatMap fun parameter => (parameter.1 ++ ":") :: parameter.2.leaves

theorem Parameters.leaves_nil : leaves [] = [] := rfl

theorem Parameters.leaves_append (a b : Parameters) : leaves (a ++ b) = leaves a ++ leaves b :=
  List.flatMap_append

theorem Parameters.leaves_cons (parameter : String × Ty) (rest : Parameters) :
    leaves (parameter :: rest) = (parameter.1 ++ ":") :: (parameter.2.leaves ++ leaves rest) := by
  rw [leaves, List.flatMap_cons, List.cons_append]
  rfl

section

variable (hp : Ignores p)
include hp

theorem hits_parameterText (parameter : String × Ty) :
    hits p (parameterText parameter) = ((parameter.1 ++ ":") :: parameter.2.leaves).any (hits p) := by
  rw [parameterText, String.append_assoc, hits_colon hp, parameter.2.hits_text hp, List.any_cons]

/-- Parameters on lines of their own. -/
theorem hits_parameterLines (parameters : Parameters) (b : String) :
    hits p (Text.join "" (parameters.map fun p => "    " ++ (parameterText p ++ ",\n")) ++ b) =
      ((Parameters.leaves parameters).any (hits p) || hits p b) := by
  have hmargin : IsOpening "    " := isOpening_of rfl (by decide)
  have hlines : ∀ line ∈ parameters.map (fun p => "    " ++ (parameterText p ++ ",\n")), EndsOpen line := by
    rw [List.forall_mem_map]
    exact fun _ _ => isGlue_commaLine.ends.append.append
  have hline : ∀ parameter : String × Ty, hits p ("    " ++ (parameterText parameter ++ ",\n")) =
      ((parameter.1 ++ ":") :: parameter.2.leaves).any (hits p) := fun parameter => by
    rw [hits_opening hp hmargin, hits_closing hp isGlue_commaLine.toIsClosing, hits_parameterText hp]
  rw [Rust.hits_lines hlines, Parameters.leaves, List.any_map, List.any_flatMap]
  simp only [Function.comp_def, hline]

/-- Parameters behind the receiver of a method. -/
theorem hits_receiver {receiver b : String} (hreceiver : IsClosing receiver) (h : StartsOpen b) (name : String)
    (parameters : Parameters) :
    hits p (name ++ (receiver ++ (Text.join "" (parameters.map fun p => ", " ++ parameterText p) ++ b))) =
      (hits p name || ((Parameters.leaves parameters).any (hits p) || hits p b)) := by
  have hparts : ∀ part ∈ parameters.map (fun p => ", " ++ parameterText p), StartsOpen part := by
    rw [List.forall_mem_map]
    exact fun _ _ => isGlue_comma.starts.append
  have hpart : ∀ parameter : String × Ty, hits p (", " ++ parameterText parameter) =
      ((parameter.1 ++ ":") :: parameter.2.leaves).any (hits p) := fun parameter => by
    rw [hits_opening hp isGlue_comma.toIsOpening, hits_parameterText hp]
  rw [hits_append_left hreceiver.starts.append, hits_append_left (startsOpen_join hparts h),
    hits_layout hp hreceiver.layout, Bool.false_or, hits_pieces hparts h, Parameters.leaves, List.any_map,
    List.any_flatMap]
  simp only [Function.comp_def, hpart]

end

/-! ## Declarations -/

/-- The texts that stand in a function. -/
def Function.leaves (f : Function) : List String :=
  f.docs ++ (f.attributes ++ f.name :: (Parameters.leaves f.parameters ++ (f.result.toList.flatMap Ty.leaves ++
    (f.bounds.getD [] ++ Stmt.allLeaves f.body))))

theorem Function.hits_text (hp : Ignores p) (f : Function) : hits p f.text = f.leaves.any (hits p) := by
  have hfn : IsOpening "pub async fn " := isOpening_of rfl (by decide)
  have hopen : IsGlue "(\n" := isGlue_of rfl (by decide)
  have hend : IsClosing "\x7d\n" := isClosing_of rfl (by decide)
  have hdocs : ∀ line ∈ f.docs.map docLine, EndsOpen line := by
    rw [List.forall_mem_map]
    exact fun doc _ => endsOpen_docLine doc
  have hattributes : ∀ line ∈ f.attributes.map (· ++ "\n"), EndsOpen line := by
    rw [List.forall_mem_map]
    exact fun _ _ => isGlue_newline.ends.append
  simp only [text, leaves, String.append_assoc]
  rw [Rust.hits_lines hdocs, Rust.hits_lines hattributes, hits_opening hp hfn]
  cases f.bounds with
  | none =>
      simp only [Option.isSome_none, Bool.false_eq_true, if_false, String.empty_append]
      rw [hits_glue hp hopen, hits_parameterLines hp, hits_opening hp isGlue_roundEnd.toIsOpening,
        hits_result hp _ isGlue_blockStart.starts.append, hits_opening hp isGlue_blockStart.toIsOpening,
        hits_closing hp hend, Stmt.hits_lines hp]
      simp [Function.comp_def, hits_docLine hp, hits_closing hp isGlue_newline.toIsClosing]
  | some bounds =>
      have hkind : IsGlue "<B>" := isGlue_of rfl (by decide)
      have hwhere : IsGlue "\nwhere\n    B: " := isGlue_of rfl (by decide)
      have hplus : IsGlue " + " := isGlue_of rfl (by decide)
      have hstop : IsGlue " + ?Sized,\n\x7b\n" := isGlue_of rfl (by decide)
      simp only [Option.isSome_some, if_true, String.append_assoc]
      rw [hits_glue hp hkind, hits_opening hp hopen.toIsOpening, hits_parameterLines hp,
        hits_opening hp isGlue_roundEnd.toIsOpening, hits_result hp _ hwhere.starts.append,
        hits_opening hp hwhere.toIsOpening, hits_glue hp hstop, hits_join hp hplus, hits_closing hp hend,
        Stmt.hits_lines hp]
      simp [Function.comp_def, hits_docLine hp, hits_closing hp isGlue_newline.toIsClosing]

/-- The texts that stand in a method that a trait asks for. -/
def Signature.leaves (s : Signature) : List String :=
  s.doc :: s.name :: (Parameters.leaves s.parameters ++ s.result.leaves)

theorem Signature.hits_text (hp : Ignores p) (s : Signature) : hits p s.text = s.leaves.any (hits p) := by
  have hmark : IsOpening "    /// " := isOpening_of rfl (by decide)
  have hfn : IsGlue "\n    async fn " := isGlue_of rfl (by decide)
  have hself : IsClosing "(&self" := isClosing_of rfl (by decide)
  have harrow : IsGlue ") -> " := isGlue_of rfl (by decide)
  have hend : IsClosing ";\n" := isClosing_of rfl (by decide)
  simp only [text, leaves, String.append_assoc]
  rw [hits_opening hp hmark, hits_glue hp hfn, hits_receiver hp hself harrow.starts.append,
    hits_opening hp harrow.toIsOpening, hits_closing hp hend, s.result.hits_text hp, List.any_cons, List.any_cons,
    List.any_append]

theorem Signature.endsOpen_text (s : Signature) : EndsOpen s.text :=
  EndsOpen.append (checks_of rfl rfl)

/-- The texts that stand in a field. -/
def Field.leaves (f : Field) : List String := f.doc :: f.jsonName :: (f.name ++ ":") :: f.type.leaves

theorem Field.hits_text (hp : Ignores p) (f : Field) : hits p f.text = f.leaves.any (hits p) := by
  have hmark : IsOpening "    /// " := isOpening_of rfl (by decide)
  have hrename : IsGlue "\n    #[serde(rename = \"" := isGlue_of rfl (by decide)
  have hpub : IsGlue "\")]\n    pub " := isGlue_of rfl (by decide)
  simp only [text, leaves, String.append_assoc]
  rw [hits_opening hp hmark, hits_glue hp hrename, hits_glue hp hpub, hits_colon hp,
    hits_closing hp isGlue_commaLine.toIsClosing, f.type.hits_text hp]
  simp

theorem Field.endsOpen_text (f : Field) : EndsOpen f.text := isGlue_commaLine.ends.append

/-- The texts that stand in a part of an implementation. -/
def ImplMember.leaves : ImplMember → List String
  | .type name definition => name :: definition.leaves
  | .method _ name parameters result body =>
    name :: (Parameters.leaves parameters ++ (result.toList.flatMap Ty.leaves ++ body.leaves))

theorem ImplMember.hits_text (hp : Ignores p) (member : ImplMember) :
    hits p member.text = member.leaves.any (hits p) := by
  have hend : IsClosing ";\n" := isClosing_of rfl (by decide)
  cases member with
  | type name definition =>
      have htype : IsOpening "    type " := isOpening_of rfl (by decide)
      simp only [text, leaves, String.append_assoc]
      rw [hits_opening hp htype, hits_glue hp isGlue_equals, hits_closing hp hend, definition.hits_text hp,
        List.any_cons]
  | method mutable name parameters result body =>
      have hfn : IsOpening "    fn " := isOpening_of rfl (by decide)
      have hself : IsClosing (if mutable then "(&mut self" else "(&self") := by
        cases mutable with
        | true => exact isClosing_of rfl (by decide)
        | false => exact isClosing_of rfl (by decide)
      have hopen : IsGlue " \x7b " := isGlue_of rfl (by decide)
      have hclose : IsClosing " \x7d\n" := isClosing_of rfl (by decide)
      simp only [text, leaves, String.append_assoc]
      rw [hits_opening hp hfn, hits_receiver hp hself isGlue_roundEnd.starts.append,
        hits_opening hp isGlue_roundEnd.toIsOpening, hits_result hp _ hopen.starts.append,
        hits_opening hp hopen.toIsOpening, hits_closing hp hclose, body.hits_text hp]
      simp

namespace Item

/-- The texts that stand in a declaration. -/
def leaves : Item → List String
  | .function f => f.leaves
  | .backend doc name methods => doc :: "async_trait" :: (name ++ ":") :: methods.flatMap Signature.leaves
  | .table doc _ name item rows =>
    doc :: (name ++ ":") :: (item.leaves ++ rows.flatMap fun row => row.1 ++ row.2.leaves)
  | .record doc name derives fields => doc :: (derives ++ name :: fields.flatMap Field.leaves)
  | .impl interface name members => interface :: name :: members.flatMap ImplMember.leaves
  | .alias doc name target => [doc, name, target]

/-- The rows of a table, each below its comments. -/
theorem hits_rows (hp : Ignores p) (rows : List (List String × Expr)) :
    hits p (Text.join "" (rows.map fun row =>
      Text.join "" (row.1.map commentLine) ++ ("    " ++ (row.2.text 1 ++ ",\n")))) =
      (rows.flatMap fun row => row.1 ++ row.2.leaves).any (hits p) := by
  have hmargin : IsOpening "    " := isOpening_of rfl (by decide)
  have hrow : ∀ row : List String × Expr, hits p (Text.join "" (row.1.map commentLine) ++
      ("    " ++ (row.2.text 1 ++ ",\n"))) = (row.1 ++ row.2.leaves).any (hits p) := by
    intro row
    have hcomments : ∀ line ∈ row.1.map commentLine, EndsOpen line := by
      rw [List.forall_mem_map]
      exact fun line _ => endsOpen_commentLine line
    rw [Rust.hits_lines hcomments, hits_opening hp hmargin, hits_closing hp isGlue_commaLine.toIsClosing,
      row.2.hits_text hp]
    simp [Function.comp_def, hits_commentLine hp]
  have hlines : ∀ line ∈ rows.map (fun row : List String × Expr =>
      Text.join "" (row.1.map commentLine) ++ ("    " ++ (row.2.text 1 ++ ",\n"))), EndsOpen line := by
    rw [List.forall_mem_map]
    exact fun row _ => isGlue_commaLine.ends.append.append.append
  rw [← String.append_empty (s := Text.join "" _), Rust.hits_lines hlines, hits_empty, Bool.or_false, List.any_map,
    List.any_flatMap]
  simp only [Function.comp_def, hrow]

/-- A word that is no word of the layout is found in the text of a declaration if it is found in one of the
texts that stand in it. -/
theorem hits_text (hp : Ignores p) (item : Item) : hits p item.text = item.leaves.any (hits p) := by
  rw [text, hits_closing hp isGlue_newline.toIsClosing]
  cases item with
  | function f => exact f.hits_text hp
  | backend doc name methods =>
      have hattribute : "#[async_trait]\npub trait " = "#[" ++ ("async_trait" ++ "]\npub trait ") := rfl
      have hsend : ": Send + Sync \x7b\n" = ": " ++ "Send + Sync \x7b\n" := rfl
      have hmark : IsOpening "#[" := isOpening_of rfl (by decide)
      have htrait : IsGlue "]\npub trait " := isGlue_of rfl (by decide)
      have hopen : IsOpening "Send + Sync \x7b\n" := isOpening_of rfl (by decide)
      have hend : IsClosing "\x7d\n" := isClosing_of rfl (by decide)
      have hlines : ∀ line ∈ methods.map Signature.text, EndsOpen line := by
        rw [List.forall_mem_map]
        exact fun method _ => method.endsOpen_text
      simp only [lines, leaves, String.append_assoc]
      rw [hits_append_right (endsOpen_docLine doc), hits_docLine hp, hattribute, hsend]
      simp only [String.append_assoc]
      rw [hits_opening hp hmark, hits_glue hp htrait, hits_colon hp, hits_opening hp hopen, Rust.hits_lines hlines,
        hits_layout hp hend.layout]
      simp [Function.comp_def, Signature.hits_text hp]
  | table doc isPublic name item rows =>
      have hconst : IsOpening (if isPublic then "pub const " else "const ") := by
        cases isPublic with
        | true => exact isOpening_of rfl (by decide)
        | false => exact isOpening_of rfl (by decide)
      have hopen : IsGlue " = &[\n" := isGlue_of rfl (by decide)
      have hend : IsClosing "];\n" := isClosing_of rfl (by decide)
      simp only [lines, leaves, String.append_assoc]
      rw [hits_append_right (endsOpen_docLine doc), hits_docLine hp, hits_opening hp hconst, hits_colon hp,
        hits_glue hp hopen, hits_closing hp hend, hits_rows hp, Ty.hits_text hp]
      simp [Ty.leaves]
  | record doc name derives fields =>
      have hderive : IsOpening "#[derive(" := isOpening_of rfl (by decide)
      have hstruct : IsGlue ")]\npub struct " := isGlue_of rfl (by decide)
      have hend : IsClosing "\x7d\n" := isClosing_of rfl (by decide)
      have hlines : ∀ line ∈ fields.map Field.text, EndsOpen line := by
        rw [List.forall_mem_map]
        exact fun field _ => field.endsOpen_text
      simp only [lines, leaves, String.append_assoc]
      rw [hits_append_right (endsOpen_docLine doc), hits_docLine hp, hits_opening hp hderive,
        hits_glue hp hstruct, hits_glue hp isGlue_blockStart, Rust.hits_lines hlines, hits_join hp isGlue_comma,
        hits_layout hp hend.layout]
      simp [Function.comp_def, Field.hits_text hp]
  | impl interface name members =>
      have himpl : IsOpening "impl " := isOpening_of rfl (by decide)
      have hfor : IsGlue " for " := isGlue_of rfl (by decide)
      have hend : IsClosing "\x7d\n" := isClosing_of rfl (by decide)
      simp only [lines, leaves, String.append_assoc]
      rw [hits_opening hp himpl, hits_glue hp hfor, hits_glue hp isGlue_blockStart, hits_closing hp hend,
        hits_join hp isGlue_newline]
      simp [Function.comp_def, ImplMember.hits_text hp]
  | «alias» doc name target =>
      have htype : IsOpening "pub type " := isOpening_of rfl (by decide)
      have hend : IsClosing ";\n" := isClosing_of rfl (by decide)
      simp only [lines, leaves, String.append_assoc]
      rw [hits_append_right (endsOpen_docLine doc), hits_docLine hp, hits_opening hp htype,
        hits_glue hp isGlue_equals, hits_closing hp hend]
      simp

end Item

attribute [simp] Ty.leaves Ty.allLeaves Expr.leaves Expr.allLeaves Expr.fieldLeaves Expr.armLeaves Stmt.leaves
  Stmt.allLeaves Stmt.allLeaves_append Parameters.leaves_nil Parameters.leaves_append Parameters.leaves_cons

end RegionGateway.Rust
