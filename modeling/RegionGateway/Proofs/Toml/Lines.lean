import RegionGateway.Proofs.Toml.Strings
import RegionGateway.Toml.Read

/-!
# Reading the lines of a document

How a document is read that is made of known lines. What a loop does is told by `Runs`, without its bound
(`loop_eq_of_runs`). A text leads from one state of reading to another if that is so whatever follows
(`Reads`): a blank line does, a header and a setting (`reads_blank`, `reads_header`, `reads_setting`), and
so does what is joined of such texts (`Reads.append`).
-/

namespace RegionGateway.Toml

namespace Scan

variable {α β σ : Type} {cs rest : List Char}

/-! ## Sequences -/

theorem bind_ok {x : Scan α} {a : α} (f : α → Scan β) (h : x cs = .ok (a, rest)) :
    (x >>= f) cs = f a rest := by
  show Except.bind (x cs) _ = _
  rw [h]
  rfl

theorem peek_cons (c : Char) (rest : List Char) : peek (c :: rest) = .ok (some c, c :: rest) := rfl

/-- No blanks are dropped before another character. -/
theorem spaces_cons {c : Char} (h : isSpace c = false) (rest : List Char) :
    spaces (c :: rest) = .ok ((), c :: rest) := by
  show Except.ok ((), List.dropWhile isSpace (c :: rest)) = _
  rw [List.dropWhile_cons_of_neg (by simpa using h)]

theorem takeWhile_append {p : Char → Bool} (hfront : ∀ c ∈ cs, p c = true)
    (hrest : ∀ c ∈ rest.head?, p c = false) : takeWhile p (cs ++ rest) = .ok (cs, rest) := by
  have hnone : rest.takeWhile p = [] ∧ rest.dropWhile p = rest := by
    cases rest with
    | nil => exact ⟨rfl, rfl⟩
    | cons c rest =>
        have hc := hrest c rfl
        exact ⟨List.takeWhile_cons_of_neg (by simp [hc]), List.dropWhile_cons_of_neg (by simp [hc])⟩
  show Except.ok (List.takeWhile p (cs ++ rest), List.dropWhile p (cs ++ rest)) = _
  rw [List.takeWhile_append_of_pos hfront, List.dropWhile_append_of_pos hfront, hnone.1, hnone.2,
    List.append_nil]

theorem dropIf_of_not {expected : List Char} (h : expected.isPrefixOf cs = false) :
    dropIf expected cs = .ok (false, cs) := by
  rw [dropIf, h]
  rfl

theorem advance_cons (c : Char) (rest : List Char) : advance (c :: rest) = .ok ((), rest) := rfl

theorem expect_cons (c : Char) (rest : List Char) : expect [c] (c :: rest) = .ok ((), rest) := by
  have hdrop : dropIf [c] (c :: rest) = .ok (true, rest) := by simp [dropIf]
  rw [expect, bind_ok _ hdrop]
  rfl

theorem ofFunction_some {f : List Char → Option (List Char × List Char)} {content : List Char}
    (h : f cs = some (content, rest)) : ofFunction f cs = .ok (content, rest) := by
  rw [ofFunction, h]

/-! ## Loops -/

/-- What a loop makes of a text: a step goes on with less text, or is done. -/
inductive Runs (step : σ → Scan (Turn σ α)) : σ → List Char → α × List Char → Prop
  | again {state after cs middle out} : step state cs = .ok (.again after, middle) →
      middle.length < cs.length → Runs step after middle out → Runs step state cs out
  | done {state cs result rest} : step state cs = .ok (.done result, rest) →
      Runs step state cs (result, rest)

/-- A bound above the length of the text does not show. -/
theorem loopFor_eq_of_runs {step : σ → Scan (Turn σ α)} {state : σ} {out : α × List Char}
    (h : Runs step state cs out) : ∀ bound, cs.length < bound → loopFor step bound state cs = .ok out := by
  induction h with
  | again hstep hless _ ih =>
      -- the step took something away, so one less is still above what is left
      intro bound hbound
      obtain ⟨bound, rfl⟩ : ∃ n, bound = n + 1 := ⟨bound - 1, by omega⟩
      rw [loopFor, bind_ok _ hstep]
      exact ih bound (by omega)
  | done hstep =>
      intro bound hbound
      obtain ⟨bound, rfl⟩ : ∃ n, bound = n + 1 := ⟨bound - 1, by omega⟩
      rw [loopFor, bind_ok _ hstep]
      rfl

theorem loop_eq_of_runs {step : σ → Scan (Turn σ α)} {state : σ} {out : α × List Char}
    (h : Runs step state cs out) : loop step state cs = .ok out :=
  loopFor_eq_of_runs h _ (Nat.lt_succ_self _)

end Scan

open Scan

/-! ## Keys -/

/-- A name that stands in a key as it is. -/
def IsBare (name : String) : Prop := name.toList ≠ [] ∧ ∀ c ∈ name.toList, isBareKey c = true

instance (name : String) : Decidable (IsBare name) :=
  @instDecidableAnd _ _ _ (List.decidableBAll _ name.toList)

theorem ne_of_isBareKey {c d : Char} (h : isBareKey c = true) (hd : isBareKey d = false) : c ≠ d := by
  rintro rfl
  rw [h] at hd
  cases hd

theorem isSpace_of_isBareKey {c : Char} (h : isBareKey c = true) : isSpace c = false := by
  have hspace := ne_of_isBareKey h (d := ' ') (by decide)
  have htab := ne_of_isBareKey h (d := '\t') (by decide)
  simp [isSpace, hspace, htab]

theorem IsBare.cons {name : String} (h : IsBare name) :
    ∃ c more, name.toList = c :: more ∧ isBareKey c = true := by
  obtain ⟨c, more, hname⟩ := List.exists_cons_of_ne_nil h.1
  exact ⟨c, more, hname, h.2 c (by rw [hname]; exact List.mem_cons_self)⟩

/-- The parts of a path and a last one, with dots between them. -/
def dotted : List String → String → List Char
  | [], last => last.toList
  | name :: path, last => name.toList ++ '.' :: dotted path last

theorem keyPart_append {name : String} (h : IsBare name) {rest : List Char}
    (hrest : ∀ c ∈ rest.head?, isBareKey c = false) : keyPart (name.toList ++ rest) = .ok (name, rest) := by
  obtain ⟨c, more, hname, hc⟩ := h.cons
  have hpeek : peek (name.toList ++ rest) = .ok (some c, name.toList ++ rest) := by
    rw [hname]
    rfl
  unfold keyPart
  rw [bind_ok _ hpeek]
  -- no quote is a character of bare keys
  refine (congrFun (?_ : _ = (do
    let name ← takeWhile isBareKey
    check !name.isEmpty
    return String.ofList name : Scan String)) _).trans ?_
  · split
    · next hquote => exact absurd (Option.some.inj hquote) (ne_of_isBareKey hc (by decide))
    · next hquote => exact absurd (Option.some.inj hquote) (ne_of_isBareKey hc (by decide))
    · rfl
  rw [bind_ok _ (takeWhile_append h.2 hrest), hname]
  show Except.ok (String.ofList (c :: more), rest) = _
  rw [← hname, String.ofList_toList]

/-- One step of reading a key. -/
def keyStep (parts : List String) : Scan (Turn (List String) (String × List String)) := do
  spaces
  let part ← keyPart
  spaces
  if ← dropIf ['.'] then return .again (part :: parts)
  return .done (part, parts.reverse)

section

variable {name : String} (h : IsBare name) {rest : List Char}
  (hrest : ∀ c ∈ rest.head?, isBareKey c = false)
include h

theorem spaces_append (rest : List Char) : spaces (name.toList ++ rest) = .ok ((), name.toList ++ rest) := by
  obtain ⟨c, more, hname, hc⟩ := h.cons
  rw [hname]
  exact spaces_cons (isSpace_of_isBareKey hc) _

theorem keyStep_dot (parts : List String) (rest : List Char) :
    keyStep parts (name.toList ++ '.' :: rest) = .ok (.again (name :: parts), rest) := by
  unfold keyStep
  rw [bind_ok _ (spaces_append h _), bind_ok _ (keyPart_append h fun c hc => ?_),
    bind_ok _ (spaces_cons (by decide) rest)]
  · rfl
  · cases hc
    decide

include hrest in
/-- The last part goes up to the blanks before the next character, which is no dot. -/
theorem keyStep_last (hdot : ['.'].isPrefixOf (rest.dropWhile isSpace) = false) (parts : List String) :
    keyStep parts (name.toList ++ rest) = .ok (.done (name, parts.reverse), rest.dropWhile isSpace) := by
  have hspaces : spaces rest = .ok ((), rest.dropWhile isSpace) := rfl
  unfold keyStep
  rw [bind_ok _ (spaces_append h _), bind_ok _ (keyPart_append h hrest), bind_ok _ hspaces,
    bind_ok _ (dropIf_of_not hdot)]
  rfl

end

/-- Part after part is read up to the last one. -/
theorem runs_dotted {path : List String} {last : String} (hpath : ∀ name ∈ path, IsBare name)
    (hlast : IsBare last) {rest : List Char} (hrest : ∀ c ∈ rest.head?, isBareKey c = false)
    (hdot : ['.'].isPrefixOf (rest.dropWhile isSpace) = false) (parts : List String) :
    Runs keyStep parts (dotted path last ++ rest) ((last, parts.reverse ++ path), rest.dropWhile isSpace) := by
  induction path generalizing parts with
  | nil =>
      rw [List.append_nil]
      exact .done (keyStep_last hlast hrest hdot parts)
  | cons name path ih =>
      obtain ⟨hname, hpath⟩ := List.forall_mem_cons.mp hpath
      have hlater := ih hpath (name :: parts)
      rw [List.reverse_cons, List.append_assoc] at hlater
      rw [dotted, List.append_assoc, List.cons_append]
      exact .again (keyStep_dot hname parts _) (by simp; omega) hlater

/-- A key is read up to the blanks after it, with its parts. -/
theorem key_dotted {path : List String} {last : String} (hpath : ∀ name ∈ path, IsBare name)
    (hlast : IsBare last) (hdeep : path.length < maxDepth) {rest : List Char}
    (hrest : ∀ c ∈ rest.head?, isBareKey c = false)
    (hdot : ['.'].isPrefixOf (rest.dropWhile isSpace) = false) :
    key (dotted path last ++ rest) = .ok ((last, path), rest.dropWhile isSpace) := by
  have hloop := loop_eq_of_runs (runs_dotted hpath hlast hrest hdot [])
  refine (bind_ok _ hloop).trans ?_
  show (if maxDepth ≤ path.length then _ else _ : Scan _) _ = _
  rw [if_neg (Nat.not_le.mpr hdeep)]
  rfl

theorem dotted_cons {path : List String} {last : String} (hpath : ∀ name ∈ path, IsBare name)
    (hlast : IsBare last) : ∃ c more, dotted path last = c :: more ∧ isBareKey c = true := by
  cases path with
  | nil => exact hlast.cons
  | cons name path =>
      obtain ⟨c, more, hname, hc⟩ := (hpath name List.mem_cons_self).cons
      exact ⟨c, _, by rw [dotted, hname]; rfl, hc⟩

/-! ## Values -/

/-- A text that is read as a value up to the end of its line. -/
structure Shows (text : List Char) (v : Toml) : Prop where
  front : ∃ c more, text = c :: more ∧ isSpace c = false
  value : ∀ rest, Toml.value maxDepth (text ++ '\n' :: rest) = .ok (v, '\n' :: rest)

theorem shows_write (cs : List Char) : Shows (StringText.write cs) (.str (String.ofList cs)) := by
  obtain ⟨quote, more, hquote, hwrite⟩ := StringText.write_cons cs
  refine ⟨⟨quote, more, hwrite, by rcases hquote with rfl | rfl <;> decide⟩, fun rest => ?_⟩
  have hread : StringText.read? (StringText.write cs ++ '\n' :: rest) = some (cs, '\n' :: rest) :=
    StringText.read?_write cs (by simp) (by simp)
  have hstring : Toml.value maxDepth (StringText.write cs ++ '\n' :: rest) =
      (do return .str (String.ofList (← ofFunction StringText.read?)) : Scan Toml)
        (StringText.write cs ++ '\n' :: rest) := by
    rw [hwrite]
    rcases hquote with rfl | rfl <;> rfl
  rw [hstring, bind_ok _ (ofFunction_some hread)]
  rfl

theorem shows_true : Shows ['t', 'r', 'u', 'e'] (.bool true) :=
  ⟨⟨'t', _, rfl, by decide⟩, fun rest => rfl⟩

theorem shows_false : Shows ['f', 'a', 'l', 's', 'e'] (.bool false) :=
  ⟨⟨'f', _, rfl, by decide⟩, fun rest => rfl⟩

/-! ## Lines -/

theorem line_blank (p : Progress) (rest : List Char) : line p ('\n' :: rest) = .ok (.again p, rest) := rfl

theorem line_nil (p : Progress) : line p [] = .ok (.done (Node.finishMembers p.members), []) := rfl

theorem goOn_some (header : List String) (members : Node.Members) (rest : List Char) :
    goOn header (some members) ('\n' :: rest) = .ok (⟨header, members⟩, rest) := rfl

section

variable {p : Progress} {members : Node.Members}

theorem line_header {path : List String} {last : String} (hpath : ∀ name ∈ path, IsBare name)
    (hlast : IsBare last) (hdeep : path.length < maxDepth)
    (hmembers : Node.beginTable path last p.members = some members) (rest : List Char) :
    line p ('[' :: (dotted path last ++ ']' :: '\n' :: rest)) =
      .ok (.again ⟨path ++ [last], members⟩, rest) := by
  have hsingle : dropIf ['[', '['] ('[' :: (dotted path last ++ ']' :: '\n' :: rest)) =
      .ok (false, '[' :: (dotted path last ++ ']' :: '\n' :: rest)) := by
    obtain ⟨c, more, hdotted, hc⟩ := dotted_cons hpath hlast
    have hbracket : c ≠ '[' := ne_of_isBareKey hc (by decide)
    refine dropIf_of_not ?_
    rw [hdotted]
    simp [List.isPrefixOf, hbracket.symm]
  have hkey : key (dotted path last ++ ']' :: '\n' :: rest) = .ok ((last, path), ']' :: '\n' :: rest) :=
    key_dotted hpath hlast hdeep (by simp; decide) rfl
  rw [line, bind_ok _ (spaces_cons (by decide) _), bind_ok _ (peek_cons _ _)]
  show (dropIf ['[', '['] >>= _) _ = _
  rw [bind_ok _ hsingle, if_neg Bool.false_ne_true, bind_ok _ (advance_cons _ _), bind_ok _ hkey]
  dsimp only
  rw [bind_ok _ (expect_cons _ _), hmembers, bind_ok _ (goOn_some _ _ _)]
  rfl

/-- A line that begins with a key is a setting. -/
theorem line_bare {c : Char} (hc : isBareKey c = true) (cs : List Char) :
    line p (c :: cs) = (key >>= fun k => do
      expect ['=']
      spaces
      let v ← value maxDepth
      return .again (← goOn p.header (Node.addBelow p.header k.2 k.1 v p.members))) (c :: cs) := by
  have hmark : ¬ (c = '#' ∨ c = '\n' ∨ c = '\r') := by
    rintro (rfl | rfl | rfl) <;> exact absurd hc (by decide)
  rw [line, bind_ok _ (spaces_cons (isSpace_of_isBareKey hc) cs), bind_ok _ (peek_cons c cs)]
  refine congrFun ?_ _
  split
  · next hnone => cases hnone
  · next hbracket => exact absurd (Option.some.inj hbracket) (ne_of_isBareKey hc (by decide))
  · next hsame =>
      obtain rfl := Option.some.inj hsame
      exact if_neg hmark

theorem line_setting {name : String} {text : List Char} {v : Toml} (hname : IsBare name)
    (htext : Shows text v) (hmembers : Node.addBelow p.header [] name v p.members = some members)
    (rest : List Char) :
    line p (name.toList ++ ' ' :: '=' :: ' ' :: (text ++ '\n' :: rest)) =
      .ok (.again ⟨p.header, members⟩, rest) := by
  have hkey : key (name.toList ++ ' ' :: '=' :: ' ' :: (text ++ '\n' :: rest)) =
      .ok ((name, []), '=' :: ' ' :: (text ++ '\n' :: rest)) := by
    show key (dotted [] name ++ _) = _
    exact key_dotted (List.forall_mem_nil _) hname (by decide) (by simp; decide) rfl
  have hspaces : spaces (' ' :: (text ++ '\n' :: rest)) = .ok ((), text ++ '\n' :: rest) := by
    obtain ⟨d, more, rfl, hd⟩ := htext.front
    exact spaces_cons hd _
  obtain ⟨c, more, hcons, hc⟩ := hname.cons
  rw [hcons, List.cons_append] at hkey ⊢
  rw [line_bare hc, bind_ok _ hkey, bind_ok _ (expect_cons _ _), bind_ok _ hspaces,
    bind_ok _ (htext.value rest), hmembers, bind_ok _ (goOn_some _ _ _)]
  rfl

end

/-! ## Documents -/

/-- A text leads from one state of reading to another, whatever follows. -/
def Reads (text : List Char) (p q : Progress) : Prop :=
  ∀ ⦃rest out⦄, Runs line q rest out → Runs line p (text ++ rest) out

theorem Reads.nil (p : Progress) : Reads [] p p := fun _ _ h => h

theorem Reads.append {p q r : Progress} {text text' : List Char} (h : Reads text p q)
    (h' : Reads text' q r) : Reads (text ++ text') p r := by
  intro rest out hruns
  rw [List.append_assoc]
  exact h (h' hruns)

/-- A step that takes a text away. -/
theorem Reads.of_line {p q : Progress} {text : List Char} (hsome : text ≠ [])
    (h : ∀ rest, line p (text ++ rest) = .ok (.again q, rest)) : Reads text p q := by
  intro rest out hruns
  have hlength := List.length_pos_iff.mpr hsome
  exact .again (h rest) (by rw [List.length_append]; omega) hruns

theorem reads_blank (p : Progress) : Reads ['\n'] p p :=
  .of_line (List.cons_ne_nil _ _) (line_blank p)

theorem reads_header {p : Progress} {members : Node.Members} {path : List String} {last : String}
    (hpath : ∀ name ∈ path, IsBare name) (hlast : IsBare last) (hdeep : path.length < maxDepth)
    (hmembers : Node.beginTable path last p.members = some members) :
    Reads ('[' :: (dotted path last ++ [']', '\n'])) p ⟨path ++ [last], members⟩ := by
  refine .of_line (List.cons_ne_nil _ _) fun rest => ?_
  rw [← line_header hpath hlast hdeep hmembers rest]
  simp

theorem reads_setting {p : Progress} {members : Node.Members} {name : String} {text : List Char} {v : Toml}
    (hname : IsBare name) (htext : Shows text v)
    (hmembers : Node.addBelow p.header [] name v p.members = some members) :
    Reads (name.toList ++ ' ' :: '=' :: ' ' :: (text ++ ['\n'])) p ⟨p.header, members⟩ := by
  refine .of_line (by simp) fun rest => ?_
  rw [← line_setting hname htext hmembers rest]
  simp

/-- What a document has led to at its end is what it says. -/
theorem read_of_reads {text : String} {q : Progress} (hmark : text.toList.head? ≠ some '\uFEFF')
    (h : Reads text.toList ⟨[], []⟩ q) : read text = .ok (Node.finishMembers q.members) := by
  have hruns := h (.done (line_nil q))
  rw [List.append_nil] at hruns
  unfold read
  split
  · next htext =>
      rw [htext] at hmark
      exact absurd rfl hmark
  · exact congrArg (Except.map (·.1)) (loop_eq_of_runs hruns)

end RegionGateway.Toml
