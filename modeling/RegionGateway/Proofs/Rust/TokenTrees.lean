import RegionGateway.Proofs.Rust.Tokens

/-!
# Token trees of Rust

Tokens are grouped by their brackets (`read`). Trees that are written out are grouped again as they were
(`read_of_reads`), and what is read has the tokens of its text (`flatten_of_read`).
-/

namespace RegionGateway.Rust

/-- A kind of brackets. -/
inductive Bracket where
  | round
  | square
  | curly
  deriving DecidableEq

namespace Bracket

@[simp] def opening : Bracket → Char
  | .round => '('
  | .square => '['
  | .curly => '\x7b'

@[simp] def closing : Bracket → Char
  | .round => ')'
  | .square => ']'
  | .curly => '\x7d'

end Bracket

/-- A token that is no bracket, or what stands between two brackets. -/
inductive TokenTree where
  | leaf (token : Token)
  | group (bracket : Bracket) (inside : List TokenTree)

namespace TokenTree

/-- A tree of a word. -/
def word (text : String) : TokenTree := .leaf (.word text)

/-- A tree of a punctuation character. -/
def mark (c : Char) : TokenTree := .leaf (.mark c)

end TokenTree

/-- What a token does to groups. -/
inductive Token.Role where
  | opens (bracket : Bracket)
  | closes (bracket : Bracket)
  | stays
  | refused
  deriving DecidableEq

def Token.role : Token → Token.Role
  | .mark '(' => .opens .round
  | .mark '[' => .opens .square
  | .mark '\x7b' => .opens .curly
  | .mark ')' => .closes .round
  | .mark ']' => .closes .square
  | .mark '\x7d' => .closes .curly
  | .stray => .refused
  | _ => .stays

/-- Groups tokens, given the groups that are open, each with what stands before it, and the trees that are
complete in the innermost one. -/
def group (enclosing : List (Bracket × List TokenTree)) (done : List TokenTree) :
    List Token → Option (List TokenTree)
  | [] => if enclosing.isEmpty then some done else none
  | t :: ts =>
    match t.role with
    | .stays => group enclosing (done ++ [.leaf t]) ts
    | .opens bracket => group ((bracket, done) :: enclosing) [] ts
    | .closes bracket =>
      match enclosing with
      | (opened, before) :: enclosing =>
        if opened = bracket then group enclosing (before ++ [.group bracket done]) ts else none
      | [] => none
    | .refused => none

/-- The token trees of a text; none if a part of it is not read, or its brackets do not match. -/
def read (text : String) : Option (List TokenTree) := group [] [] (tokenize text)

/-! ## Writing out -/

mutual

/-- The tokens of a tree. -/
def TokenTree.tokens : TokenTree → List Token
  | .leaf token => [token]
  | .group bracket inside => .mark bracket.opening :: (flatten inside ++ [.mark bracket.closing])

/-- The tokens of trees. -/
def flatten : List TokenTree → List Token
  | [] => []
  | tree :: trees => tree.tokens ++ flatten trees

end

@[simp] theorem TokenTree.tokens_leaf (token : Token) : (TokenTree.leaf token).tokens = [token] := rfl

@[simp] theorem TokenTree.tokens_word (text : String) : (TokenTree.word text).tokens = [.word text] := rfl

@[simp] theorem TokenTree.tokens_mark (c : Char) : (TokenTree.mark c).tokens = [.mark c] := rfl

@[simp] theorem TokenTree.tokens_group (bracket : Bracket) (inside : List TokenTree) :
    (TokenTree.group bracket inside).tokens =
      .mark bracket.opening :: (flatten inside ++ [.mark bracket.closing]) := rfl

@[simp] theorem flatten_nil : flatten [] = [] := rfl

@[simp] theorem flatten_cons (tree : TokenTree) (trees : List TokenTree) :
    flatten (tree :: trees) = tree.tokens ++ flatten trees := rfl

@[simp] theorem flatten_append (xs ys : List TokenTree) : flatten (xs ++ ys) = flatten xs ++ flatten ys := by
  induction xs with
  | nil => rfl
  | cons x xs ih => rw [List.cons_append, flatten, flatten, ih, List.append_assoc]

mutual

/-- No leaf is a bracket or a stray token. -/
def TokenTree.IsPlain : TokenTree → Prop
  | .leaf token => token.role = .stays
  | .group _ inside => ArePlain inside

/-- No leaf of the trees is a bracket or a stray token. -/
def ArePlain : List TokenTree → Prop
  | [] => True
  | tree :: trees => tree.IsPlain ∧ ArePlain trees

end

@[simp] theorem TokenTree.isPlain_leaf {token : Token} : (TokenTree.leaf token).IsPlain ↔ token.role = .stays :=
  Iff.rfl

@[simp] theorem TokenTree.isPlain_word (text : String) : (TokenTree.word text).IsPlain := rfl

@[simp] theorem TokenTree.isPlain_mark {c : Char} :
    (TokenTree.mark c).IsPlain ↔ (Token.mark c).role = .stays := Iff.rfl

@[simp] theorem TokenTree.isPlain_group {bracket : Bracket} {inside : List TokenTree} :
    (TokenTree.group bracket inside).IsPlain ↔ ArePlain inside := Iff.rfl

@[simp] theorem arePlain_nil : ArePlain [] := trivial

@[simp] theorem arePlain_cons {tree : TokenTree} {trees : List TokenTree} :
    ArePlain (tree :: trees) ↔ tree.IsPlain ∧ ArePlain trees := Iff.rfl

@[simp] theorem arePlain_append {xs ys : List TokenTree} : ArePlain (xs ++ ys) ↔ ArePlain xs ∧ ArePlain ys := by
  induction xs with
  | nil => simp
  | cons x xs ih => simp [ih, and_assoc]

theorem Bracket.role_opening (bracket : Bracket) : (Token.mark bracket.opening).role = .opens bracket := by
  cases bracket <;> rfl

theorem Bracket.role_closing (bracket : Bracket) : (Token.mark bracket.closing).role = .closes bracket := by
  cases bracket <;> rfl

mutual

/-- The tokens of a tree are grouped to that tree. -/
theorem TokenTree.group_tokens (tree : TokenTree) (h : tree.IsPlain) (enclosing done rest) :
    group enclosing done (tree.tokens ++ rest) = group enclosing (done ++ [tree]) rest :=
  match tree, h with
  | .leaf token, h => by
      have h : token.role = .stays := h
      simp only [TokenTree.tokens, List.singleton_append, group, h]
  | .group bracket inside, h => by
      have h : ArePlain inside := h
      simp only [TokenTree.tokens, List.cons_append, List.append_assoc, group, bracket.role_opening,
        group_flatten inside h, List.nil_append, bracket.role_closing, if_true]

/-- The tokens of trees are grouped to these trees. -/
theorem group_flatten (trees : List TokenTree) (h : ArePlain trees) (enclosing done rest) :
    group enclosing done (flatten trees ++ rest) = group enclosing (done ++ trees) rest :=
  match trees, h with
  | [], _ => by simp
  | tree :: trees, h => by
      have h : tree.IsPlain ∧ ArePlain trees := h
      rw [flatten, List.append_assoc, tree.group_tokens h.1, group_flatten trees h.2, List.append_assoc,
        List.singleton_append]

end

/-- A text that is read as trees that are written out is read as these trees. -/
theorem read_of_reads {text : String} {trees : List TokenTree} (h : Reads text (flatten trees))
    (hplain : ArePlain trees) : read text = some trees := by
  have hgroup := group_flatten trees hplain [] [] []
  rw [read, tokenize_of_reads h]
  simpa [group] using hgroup

/-! ## What is read is written out -/

/-- The tokens of groups that are open. -/
def opened : List (Bracket × List TokenTree) → List Token
  | [] => []
  | (bracket, before) :: enclosing => opened enclosing ++ flatten before ++ [.mark bracket.opening]

theorem Token.role_eq_opens {token : Token} {bracket : Bracket} (h : token.role = .opens bracket) :
    token = .mark bracket.opening := by
  unfold role at h
  split at h <;> cases h <;> rfl

theorem Token.role_eq_closes {token : Token} {bracket : Bracket} (h : token.role = .closes bracket) :
    token = .mark bracket.closing := by
  unfold role at h
  split at h <;> cases h <;> rfl

/-- Grouping keeps the tokens, and it puts plain leaves into the trees. -/
theorem flatten_of_group {enclosing : List (Bracket × List TokenTree)} {done trees : List TokenTree}
    {ts : List Token} (h : group enclosing done ts = some trees) (hdone : ArePlain done)
    (henclosing : ∀ opening ∈ enclosing, ArePlain opening.2) :
    flatten trees = opened enclosing ++ flatten done ++ ts ∧ ArePlain trees := by
  -- the tokens so far are those of the open groups and of `done`, so each case moves one token to their end
  induction ts generalizing enclosing done with
  | nil =>
      unfold group at h
      split at h
      · next hempty =>
          obtain rfl := List.isEmpty_iff.mp hempty
          cases h
          exact ⟨by simp [opened], hdone⟩
      · cases h
  | cons t ts ih =>
      unfold group at h
      split at h
      · next hrole =>
          obtain ⟨htokens, hplain⟩ := ih h (by simp [hdone, hrole]) henclosing
          exact ⟨by simpa using htokens, hplain⟩
      · next bracket hrole =>
          obtain rfl := Token.role_eq_opens hrole
          obtain ⟨htokens, hplain⟩ := ih h trivial (List.forall_mem_cons.mpr ⟨hdone, henclosing⟩)
          exact ⟨by simpa [opened] using htokens, hplain⟩
      · next bracket hrole =>
          obtain rfl := Token.role_eq_closes hrole
          split at h
          · next innermost before rest =>
              split at h
              · next hsame =>
                  obtain ⟨hbefore, hrest⟩ := List.forall_mem_cons.mp henclosing
                  obtain ⟨htokens, hplain⟩ := ih h (by simp [hbefore, hdone]) hrest
                  refine ⟨?_, hplain⟩
                  subst hsame
                  simpa [opened] using htokens
              · cases h
          · cases h
      · cases h

theorem flatten_of_read {text : String} {trees : List TokenTree} (h : read text = some trees) :
    flatten trees = tokenize text ∧ ArePlain trees := by
  simpa [opened] using flatten_of_group h trivial (by simp)

end RegionGateway.Rust
