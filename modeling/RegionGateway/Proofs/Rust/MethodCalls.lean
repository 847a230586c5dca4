import RegionGateway.Proofs.Rust.Printing

/-!
# Calls of methods in token trees

The calls of methods on variables are found in token trees, each with the brackets around it, and with what
stands before and after it in its statement. What has no brackets has no calls (`allMethodCalls_leaves`), and
what is printed for a call on a variable is one (`allMethodCalls_method`).
-/

namespace RegionGateway.Rust

open TokenTree (word mark)

/-- A call of a method on a variable. -/
structure Call where
  /-- What stands before the brackets around the call, back to the last separator, innermost first. -/
  within : List (List TokenTree)
  /-- What stands before the call, back to the last separator. -/
  before : List TokenTree
  object : String
  method : String
  arguments : List (List TokenTree)
  /-- What stands after the call, up to the next separator or to the end of the next block. -/
  after : List TokenTree

namespace TokenTree

def isLeaf : TokenTree → Bool
  | .leaf _ => true
  | .group _ _ => false

def isMark (c : Char) : TokenTree → Bool
  | .leaf (.mark d) => d == c
  | _ => false

def isBlock : TokenTree → Bool
  | .group .curly _ => true
  | _ => false

/-- Statements and arguments end with a separator. -/
def separates (tree : TokenTree) : Bool := tree.isMark ';' || tree.isMark ','

end TokenTree

/-- What stands before the next tree, from back to front. A statement begins after a block, too. -/
def advance (before : List TokenTree) (tree : TokenTree) : List TokenTree :=
  if tree.separates || tree.isBlock then [] else tree :: before

/-- The rest of a statement or of an argument. -/
def remainder : List TokenTree → List TokenTree
  | [] => []
  | tree :: trees =>
    if tree.separates then [] else if tree.isBlock then [tree] else tree :: remainder trees

/-- The parts of trees between commas; a comma at the end is not followed by a part. -/
def commaParts : List TokenTree → List (List TokenTree)
  | [] => []
  | tree :: trees =>
    if tree.isMark ',' then [] :: commaParts trees
    else
      match commaParts trees with
      | [] => [[tree]]
      | first :: more => (tree :: first) :: more

/-- The call of a method on a variable that brackets belong to, given what stands before them, from back to
front, and after them. The field of a variable is no variable. -/
def callAt (within : List (List TokenTree)) (before after : List TokenTree) (bracket : Bracket)
    (inside : List TokenTree) : List Call :=
  match bracket, before with
  | .round, .leaf (.word method) :: .leaf (.mark '.') :: .leaf (.word object) :: more =>
    if more.head?.any (·.isMark '.') then []
    else [⟨within, more.reverse, object, method, commaParts inside, remainder after⟩]
  | _, _ => []

mutual

/-- The calls in a tree, given what stands before and after it. -/
def TokenTree.methodCalls (within : List (List TokenTree)) (before after : List TokenTree) :
    TokenTree → List Call
  | .leaf _ => []
  | .group bracket inside =>
    callAt within before after bracket inside ++ allMethodCalls (before.reverse :: within) [] [] inside

/-- The calls in trees, given what stands before and after them. -/
def allMethodCalls (within : List (List TokenTree)) (before after : List TokenTree) :
    List TokenTree → List Call
  | [] => []
  | tree :: trees => tree.methodCalls within before (trees ++ after) ++
    allMethodCalls within (advance before tree) after trees

end

/-- The calls of methods on variables, in the order in which they stand. -/
def methodCalls (trees : List TokenTree) : List Call := allMethodCalls [] [] [] trees

variable {within : List (List TokenTree)} {before after : List TokenTree}

theorem allMethodCalls_append (xs ys : List TokenTree) : allMethodCalls within before after (xs ++ ys) =
    allMethodCalls within before (ys ++ after) xs ++
      allMethodCalls within (xs.foldl advance before) after ys := by
  induction xs generalizing before with
  | nil => rfl
  | cons x xs ih =>
      rw [List.cons_append, allMethodCalls, allMethodCalls, ih, List.append_assoc, List.append_assoc,
        List.foldl_cons]

theorem allMethodCalls_leaves {trees : List TokenTree} (h : trees.all TokenTree.isLeaf) :
    allMethodCalls within before after trees = [] := by
  induction trees generalizing before with
  | nil => rfl
  | cons tree trees ih =>
      rw [List.all_cons, Bool.and_eq_true] at h
      cases tree with
      | leaf token => exact ih h.2
      | group bracket inside => cases h.1

/-! ## Arguments -/

/-- Trees of one argument, without brackets. -/
structure IsArgument (trees : List TokenTree) : Prop where
  ne_nil : trees ≠ []
  isLeaf : ∀ tree ∈ trees, tree.isLeaf = true
  separates : ∀ tree ∈ trees, tree.separates = false

theorem isArgument_of_all {trees : List TokenTree}
    (h : (!trees.isEmpty && trees.all fun tree => tree.isLeaf && !tree.separates) = true) :
    IsArgument trees := by
  simp only [Bool.and_eq_true, Bool.not_eq_true', List.isEmpty_eq_false_iff, List.all_eq_true] at h
  exact ⟨h.1, fun tree htree => (h.2 tree htree).1, fun tree htree => (h.2 tree htree).2⟩

theorem IsArgument.allMethodCalls {trees : List TokenTree} (h : IsArgument trees) :
    allMethodCalls within before after trees = [] :=
  allMethodCalls_leaves (List.all_eq_true.mpr h.isLeaf)

theorem IsArgument.foldl_advance {trees : List TokenTree} (h : IsArgument trees) (before : List TokenTree) :
    trees.foldl advance before = trees.reverse ++ before := by
  obtain ⟨-, hleaves, hseparates⟩ := h
  induction trees generalizing before with
  | nil => rfl
  | cons tree trees ih =>
      obtain ⟨hleaf, hleaves⟩ := List.forall_mem_cons.mp hleaves
      obtain ⟨hinner, hseparates⟩ := List.forall_mem_cons.mp hseparates
      have hstep : advance before tree = tree :: before := by
        cases tree with
        | leaf token => rw [advance, hinner]; rfl
        | group bracket inside => cases hleaf
      rw [List.foldl_cons, hstep, ih _ hleaves hseparates, List.reverse_cons, List.append_assoc]
      rfl

theorem commaParts_append {part trees : List TokenTree} (h : ∀ tree ∈ part, tree.separates = false) :
    commaParts (part ++ mark ',' :: trees) = part :: commaParts trees := by
  induction part with
  | nil => rfl
  | cons tree part ih =>
      obtain ⟨htree, hpart⟩ := List.forall_mem_cons.mp h
      have hcomma : tree.isMark ',' = false := (Bool.or_eq_false_iff.mp htree).2
      simp [commaParts, hcomma, ih hpart]

theorem IsArgument.commaParts {trees : List TokenTree} (h : IsArgument trees) : commaParts trees = [trees] := by
  obtain ⟨hne, -, hseparates⟩ := h
  induction trees with
  | nil => exact absurd rfl hne
  | cons tree trees ih =>
      obtain ⟨htree, htrees⟩ := List.forall_mem_cons.mp hseparates
      have hcomma : tree.isMark ',' = false := (Bool.or_eq_false_iff.mp htree).2
      cases trees with
      | nil => simp [Rust.commaParts, hcomma]
      | cons after trees =>
          rw [Rust.commaParts, ih (List.cons_ne_nil _ _) htrees, hcomma]
          rfl

theorem commaParts_separated {parts : List (List TokenTree)} (h : ∀ part ∈ parts, IsArgument part) :
    commaParts (separated [mark ','] parts) = parts := by
  induction parts with
  | nil => rfl
  | cons part parts ih =>
      obtain ⟨hpart, hparts⟩ := List.forall_mem_cons.mp h
      cases parts with
      | nil => exact hpart.commaParts
      | cons after parts =>
          rw [separated, List.append_assoc, List.singleton_append, commaParts_append hpart.separates, ih hparts]
          simp

theorem all_isLeaf_separated {parts : List (List TokenTree)} (h : ∀ part ∈ parts, IsArgument part) :
    (separated [mark ','] parts).all TokenTree.isLeaf = true := by
  induction parts with
  | nil => rfl
  | cons part parts ih =>
      obtain ⟨hpart, hparts⟩ := List.forall_mem_cons.mp h
      have hleaves : part.all TokenTree.isLeaf = true := List.all_eq_true.mpr hpart.isLeaf
      cases parts with
      | nil => exact hleaves
      | cons after parts =>
          rw [separated, List.append_assoc, List.all_append, hleaves, List.all_append, ih hparts]
          · rfl
          · simp

/-- What is printed for a call of a method on a variable is that call. -/
theorem allMethodCalls_method {object method : String} {arguments : List Expr}
    (hobject : treesOf object = [word object]) (hmethod : treesOf method = [word method])
    (harguments : ∀ part ∈ Expr.allTrees arguments, IsArgument part)
    (hbefore : before.head?.any (·.isMark '.') = false) :
    allMethodCalls within before after (Expr.method (.place object) method arguments).trees =
      [⟨within, before.reverse, object, method, Expr.allTrees arguments, remainder after⟩] := by
  have htrees : (Expr.method (.place object) method arguments).trees = [word object, mark '.', word method,
      .group .round (separated [mark ','] (Expr.allTrees arguments))] := by
    simp only [Expr.trees, hobject, hmethod]
    rfl
  have hcall : callAt within (word method :: mark '.' :: word object :: before) after .round
      (separated [mark ','] (Expr.allTrees arguments)) =
      [⟨within, before.reverse, object, method, Expr.allTrees arguments, remainder after⟩] := by
    show (if _ then _ else _) = _
    rw [hbefore, commaParts_separated harguments]
    rfl
  rw [htrees]
  show callAt within (word method :: mark '.' :: word object :: before) after .round _ ++
    allMethodCalls _ _ _ (separated [mark ','] (Expr.allTrees arguments)) ++ [] = _
  rw [hcall, allMethodCalls_leaves (all_isLeaf_separated harguments)]
  rfl

/-! ## Paths -/

/-- A path has words and dots only. -/
theorem forall_mem_path {p : TokenTree → Prop} (hdot : p (mark '.')) (hword : ∀ name, p (word name))
    (names : List String) : ∀ tree ∈ pathTrees names, p tree := by
  induction names with
  | nil => exact nofun
  | cons name names ih =>
      cases names with
      | nil => simpa [pathTrees, separated] using hword name
      | cons after names =>
          rw [pathTrees_cons, List.forall_mem_cons, List.forall_mem_cons]
          exact ⟨hword name, hdot, ih⟩

theorem IsArgument.append_path {trees : List TokenTree} (h : IsArgument trees) (names : List String) :
    IsArgument (trees ++ pathTrees names) where
  ne_nil := List.append_ne_nil_of_left_ne_nil h.ne_nil _
  isLeaf := List.forall_mem_append.mpr
    ⟨h.isLeaf, forall_mem_path (p := (·.isLeaf = true)) rfl (fun _ => rfl) names⟩
  separates := List.forall_mem_append.mpr
    ⟨h.separates, forall_mem_path (p := (·.separates = false)) rfl (fun _ => rfl) names⟩

/-- The method of a place that is reached from a variable is not called on a variable. -/
theorem exists_reverse_path {names : List String} (hne : names ≠ []) (before : List TokenTree) :
    ∃ name more, (pathTrees names).reverse ++ mark '.' :: before = word name :: mark '.' :: more := by
  induction names generalizing before with
  | nil => exact absurd rfl hne
  | cons name names ih =>
      cases names with
      | nil => exact ⟨name, before, rfl⟩
      | cons after names =>
          obtain ⟨last, more, hpath⟩ := ih (List.cons_ne_nil _ _) (word name :: mark '.' :: before)
          refine ⟨last, more, ?_⟩
          rw [pathTrees_cons, List.reverse_cons, List.reverse_cons, List.append_assoc, List.append_assoc]
          exact hpath

end RegionGateway.Rust
