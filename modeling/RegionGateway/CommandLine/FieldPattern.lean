import RegionGateway.Text.Alphanumeric
import RegionGateway.Text.Blank

/-!
# Patterns for fields

A log filter compares fields with regular expressions. `FieldPattern.check` says whether a text is one
that can be used. Patterns are compiled without tables of characters: what would need one is refused,
namely classes with a name, and the comparison of characters without regard to case, unless the pattern
has turned Unicode off. A field ends at its first closing brace, so that a pattern contains none; forms
with braces are refused, as they are never complete. A pattern that nests too deep is refused as well.
-/

namespace RegionGateway

/-- Why a pattern is refused. -/
inductive PatternError where
  /-- It is no pattern, or needs what is not there. -/
  | malformed
  /-- It asks for the edges of words, as Unicode defines words. -/
  | wordEdge
  deriving DecidableEq

namespace FieldPattern

/-! ## Flags -/

/-- What has been turned on or off at a place of a pattern. -/
structure Flags where
  ignoresCase : Bool
  unicode : Bool
  /-- Blanks and comments do not count. -/
  spaced : Bool
  deriving DecidableEq

namespace Flags

/-- The flags at the front of a pattern. -/
def initial : Flags := ⟨false, true, false⟩

/-- Turns a flag on or off by its letter. The other letters do not matter for whether a text is a
pattern. -/
def turn (flags : Flags) (on : Bool) : Char → Flags
  | 'i' => ⟨on, flags.unicode, flags.spaced⟩
  | 'u' => ⟨flags.ignoresCase, on, flags.spaced⟩
  | 'x' => ⟨flags.ignoresCase, flags.unicode, on⟩
  | _ => flags

/-- The flags after letters have been read; those behind a hyphen are turned off. -/
def change : Flags → Bool → List Char → Flags
  | flags, _, [] => flags
  | flags, on, c :: cs => if c = '-' then flags.change false cs else (flags.turn on c).change on cs

/-- Whether letters are flags: no letter and no hyphen occurs twice, and no hyphen is the last. -/
def areLetters (cs : List Char) : Bool :=
  cs.all (['i', 'm', 's', 'U', 'u', 'R', 'x', '-'].contains ·) && decide cs.Nodup &&
    cs.getLast? != some '-'

end Flags

/-! ## Nesting -/

/-- How deep parts nest that stand side by side. -/
structure Row where
  count : Nat
  /-- The deepest part but for the last one. -/
  deepest : Nat
  last : Nat
  deriving DecidableEq

namespace Row

/-- No parts. -/
def empty : Row := ⟨0, 0, 0⟩

/-- The row with another part. -/
def add (row : Row) (depth : Nat) : Row := ⟨row.count + 1, max row.deepest row.last, depth⟩

/-- The row after a repetition of its last part. -/
def deepen (row : Row) : Row := ⟨row.count, row.deepest, row.last + 1⟩

/-- How deep the row nests. A part that stands alone is no level above itself. -/
def depth (row : Row) : Nat := if row.count ≤ 1 then row.last else max row.deepest row.last + 1

end Row

/-- How deep a pattern may nest. -/
def maxDepth : Nat := 250

/-! ## Blanks -/

/-- Drops blanks and comments; a comment goes to the end of its line. -/
def dropComments : Bool → List Char → List Char
  | _, [] => []
  | true, c :: cs => dropComments (c != '\n') cs
  | false, c :: cs =>
    if Text.isBlank c then dropComments false cs
    else if c = '#' then dropComments true cs
    else c :: cs

/-- Drops what does not count. -/
def Flags.skip (flags : Flags) (cs : List Char) : List Char :=
  if flags.spaced then dropComments false cs else cs

/-! ## Single parts -/

/-- The smallest parts of a pattern. -/
inductive Part where
  /-- A character; `isByte` if it is given by two hexadecimal digits. -/
  | char (c : Char) (isByte : Bool)
  /-- Any character. -/
  | any
  /-- Digits, blanks, characters of words, or all others. -/
  | kind (negated : Bool)
  /-- The edge of a word, or a place that is none. -/
  | edge
  /-- The front or the end. -/
  | anchor
  deriving DecidableEq

/-- Whether a part can be used under flags. -/
def Part.isUsable (flags : Flags) : Part → Bool
  | .char c isByte => if flags.unicode then !flags.ignoresCase else !isByte || c.toNat < 0x80
  | .any => flags.unicode
  | .kind negated => !flags.unicode && !negated
  | .edge => true
  | .anchor => true

/-- Whether a part can be used in a bracketed class. -/
def Part.isUsableInClass (flags : Flags) : Part → Bool
  | .char c _ => if flags.unicode then !flags.ignoresCase else c.toNat < 0x80
  | .kind negated => !flags.unicode && !negated
  | _ => false

/-- The value of a hexadecimal digit. -/
def hexValue? (c : Char) : Option Nat :=
  if c.isDigit then some (c.toNat - '0'.toNat)
  else if 'a' ≤ c ∧ c ≤ 'f' then some (c.toNat - 'a'.toNat + 10)
  else if 'A' ≤ c ∧ c ≤ 'F' then some (c.toNat - 'A'.toNat + 10)
  else none

/-- The number that so many hexadecimal digits write after another number, and what follows. -/
def hex? (flags : Flags) : Nat → Nat → List Char → Option (Nat × List Char)
  | 0, n, cs => some (n, cs)
  | count + 1, n, cs =>
    match flags.skip cs with
    | [] => none
    | c :: rest => (hexValue? c).bind fun digit => hex? flags count (n * 16 + digit) rest

/-- How many hexadecimal digits follow a letter after a backslash. -/
def hexWidth? : Char → Option Nat
  | 'x' => some 2
  | 'u' => some 4
  | 'U' => some 8
  | _ => none

/-- The letters that stand for control characters after a backslash. -/
def controls : List (Char × Char) :=
  [('a', '\x07'), ('f', '\x0C'), ('n', '\n'), ('r', '\r'), ('t', '\t'), ('v', '\x0B')]

/-- What a character after a backslash stands for. Punctuation stands for itself; a letter that has no
meaning is refused, and so is a digit. -/
def escaped? (c : Char) : Option Part :=
  if ['d', 's', 'w'].contains c then some (.kind false)
  else if ['D', 'S', 'W'].contains c then some (.kind true)
  else if ['A', 'z'].contains c then some .anchor
  else if ['b', 'B', '<', '>'].contains c then some .edge
  else if c.toNat < 0x80 && !c.isAlphanum then some (.char c false)
  else (controls.lookup c).map (.char · false)

/-- The part after a backslash, and what follows. -/
def escape? (flags : Flags) : List Char → Option (Part × List Char)
  | [] => none
  | c :: rest =>
    match hexWidth? c with
    | none => (escaped? c).map (·, rest)
    | some width => do
      let (n, rest) ← hex? flags width 0 rest
      if h : n.isValidChar then some (.char (Char.ofNatAux n h) (width == 2), rest) else none

/-! ## Bracketed classes -/

/-- The names of classes that stand in brackets of their own. -/
def classNames : List String :=
  ["alnum", "alpha", "ascii", "blank", "cntrl", "digit", "graph", "lower", "print", "punct", "space",
    "upper", "word", "xdigit"]

/-- A named class from after its bracket: whether it is negated, and what follows. -/
def namedClass? (cs : List Char) : Option (Bool × List Char) :=
  classNames.findSome? fun name =>
    let close := name.toList ++ [':', ']']
    if (':' :: close).isPrefixOf cs then some (false, cs.drop (close.length + 1))
    else if (':' :: '^' :: close).isPrefixOf cs then some (true, cs.drop (close.length + 2))
    else none

/-- One end of a range in a class, or a member of its own. -/
def classPart? (flags : Flags) : List Char → Option (Part × List Char)
  | [] => none
  | '\\' :: rest => escape? flags rest
  | c :: rest => some (.char c false, rest)

/-- What follows a member that is no range. -/
def single? (flags : Flags) (part : Part) (rest : List Char) : Option (List Char) :=
  if part.isUsableInClass flags then some rest else none

/-- What follows a range. -/
def range? (flags : Flags) (first : Part) (cs : List Char) : Option (List Char) := do
  let (last, rest) ← classPart? flags cs
  match first, last with
  | .char a _, .char b _ =>
    if a ≤ b ∧ first.isUsableInClass flags ∧ last.isUsableInClass flags then some rest else none
  | _, _ => none

/-- The character after a hyphen that decides whether the hyphen makes a range. Blanks do not count; of
a comment it is the first character. -/
def decisive? (flags : Flags) (cs : List Char) : Option Char :=
  if flags.spaced then
    match cs.dropWhile Text.isBlank with
    | '#' :: rest => (rest.dropWhile Text.isBlank).head?
    | rest => rest.head?
  else cs.head?

/-- What follows a member of a class. A hyphen before the closing bracket or another hyphen makes no
range. -/
def member? (flags : Flags) (cs : List Char) : Option (List Char) := do
  let (part, rest) ← classPart? flags cs
  match flags.skip rest with
  | [] => none
  | '-' :: more =>
    if [some ']', some '-'].contains (decisive? flags more) then single? flags part ('-' :: more)
    else range? flags part (flags.skip more)
  | rest => single? flags part rest

/-- How far a class has been read. -/
inductive Progress where
  /-- Nothing has been read; a closing bracket stands for itself. -/
  | nothing
  /-- Hyphens, which stand for themselves. -/
  | hyphens
  | members
  deriving DecidableEq

/-- A class from after its bracket, without the mark of negation. Negation needs Unicode. -/
def opened? (flags : Flags) (cs : List Char) : Option (List Char) :=
  match flags.skip cs with
  | '^' :: rest => if flags.unicode then some rest else none
  | rest => some rest

/-- An open class: how deep what stands before the last operator nests, if there is one, and the members
after it. -/
structure Members where
  before : Option Nat
  row : Row
  deriving DecidableEq

namespace Members

/-- A class just opened. -/
def empty : Members := ⟨none, .empty⟩

/-- The class with another member. -/
def add (members : Members) (depth : Nat) : Members := ⟨members.before, members.row.add depth⟩

/-- How deep the members nest. -/
def depth (members : Members) : Nat :=
  match members.before with
  | none => members.row.depth
  | some before => max before members.row.depth + 1

/-- The class after an operator. -/
def operator (members : Members) : Members := ⟨some members.depth, .empty⟩

end Members

/-- What follows a class, and how deep the class nests. `outer` are the classes around it that are open;
`fuel` is more than the number of characters. -/
def class? (flags : Flags) :
    Nat → Members → List Members → Progress → List Char → Option (Nat × List Char)
  | 0, _, _, _, _ => none
  | fuel + 1, members, outer, progress, cs =>
    match flags.skip cs with
    | [] => none
    | c :: rest =>
      if c = '-' ∧ progress ≠ .members then
        (single? flags (.char c false) rest).bind (class? flags fuel (members.add 0) outer .hyphens)
      else if c = ']' ∧ progress = .nothing then
        (single? flags (.char c false) rest).bind (class? flags fuel (members.add 0) outer .members)
      else if c = ']' then
        match outer with
        | [] => some (members.depth + 1, rest)
        | around :: outer => class? flags fuel (around.add (members.depth + 1)) outer .members rest
      else if c = '[' then
        match namedClass? rest with
        | some (negated, rest) =>
          if if flags.unicode then flags.ignoresCase else negated then none
          else class? flags fuel (members.add 0) outer .members rest
        | none => (opened? flags rest).bind (class? flags fuel .empty (members :: outer) .nothing)
      else if ['&', '-', '~'].contains c && rest.head? == some c then
        class? flags fuel members.operator outer .members (rest.drop 1)
      else (member? flags (c :: rest)).bind (class? flags fuel (members.add 0) outer .members)

/-! ## Groups -/

/-- What an opening parenthesis begins. -/
inductive Group where
  /-- A group under flags, maybe with a name. -/
  | group (flags : Flags) (name : Option (List Char))
  /-- No group: flags for the rest of the group that is open. -/
  | flags (flags : Flags)

/-- Whether a group may have a name. -/
def isName : List Char → Bool
  | [] => false
  | c :: cs =>
    (c == '_' || Text.isAlphabetic c) &&
      cs.all fun c => ['_', '.', '[', ']'].contains c || Text.isAlphanumeric c

/-- A group from after the angle bracket before its name, and what follows the name. -/
def named? (flags : Flags) (cs : List Char) : Option (Group × List Char) :=
  let name := cs.takeWhile (· != '>')
  match cs.drop name.length with
  | [] => none
  | _ :: rest => if isName name then some (.group flags (some name), rest) else none

/-- A group from after its question mark, where letters of flags stand, and what follows them. -/
def flagged? (flags : Flags) (cs : List Char) : Option (Group × List Char) :=
  let letters := cs.takeWhile fun c => c != ':' && c != ')'
  let changed := flags.change true letters
  if !Flags.areLetters letters then none
  else
    match cs.drop letters.length with
    | ':' :: rest => some (.group changed none, rest)
    | ')' :: rest => if letters.isEmpty then none else some (.flags changed, rest)
    | _ => none

/-- What begins after an opening parenthesis. -/
def group? (flags : Flags) (cs : List Char) : Option (Group × List Char) :=
  match flags.skip cs with
  | '?' :: 'P' :: '<' :: rest => named? flags rest
  | '?' :: '<' :: rest => named? flags rest
  | '?' :: rest => flagged? flags rest
  | rest => some (.group flags none, rest)

/-! ## Patterns -/

/-- An open group, or the pattern itself. -/
structure Level where
  flags : Flags
  /-- The alternatives before the last bar. -/
  finished : Row
  /-- The parts after it. -/
  parts : Row
  deriving DecidableEq

namespace Level

/-- A group just begun. -/
def empty (flags : Flags) : Level := ⟨flags, .empty, .empty⟩

/-- The group with another part. -/
def add (level : Level) (depth : Nat) : Level := { level with parts := level.parts.add depth }

/-- The group after a bar. -/
def alternative (level : Level) : Level :=
  ⟨level.flags, level.finished.add level.parts.depth, .empty⟩

/-- How deep the group nests. -/
def depth (level : Level) : Nat := (level.finished.add level.parts.depth).depth

end Level

/-- How far a pattern has been read. -/
structure State where
  level : Level
  /-- What is open around it, the innermost first. -/
  outer : List Level
  /-- Whether something stands before that can be repeated. -/
  isRepeatable : Bool
  names : List (List Char)
  /-- Whether edges of Unicode words have been asked for. -/
  asksForEdges : Bool

namespace State

/-- Nothing has been read. -/
def initial : State := ⟨.empty .initial, [], false, [], false⟩

/-- The flags at the place. -/
def flags (state : State) : Flags := state.level.flags

/-- The state after something that nests as deep and can be repeated. -/
def add (state : State) (depth : Nat) : State :=
  { state with level := state.level.add depth, isRepeatable := true }

/-- The state after a single part, if it can be used. -/
def part? (state : State) (part : Part) : Option State :=
  if part.isUsable state.flags then
    some { state.add 0 with
      asksForEdges := state.asksForEdges || (part == .edge && state.flags.unicode) }
  else none

/-- The state after a bar. -/
def alternative (state : State) : State :=
  { state with level := state.level.alternative, isRepeatable := false }

/-- The state after a repetition, if there is something to repeat. -/
def repeat? (state : State) : Option State :=
  if state.isRepeatable then
    some { state with level := { state.level with parts := state.level.parts.deepen } }
  else none

/-- The state after the beginning of a group. No two groups have one name. -/
def begin? (state : State) : Group → Option State
  | .flags flags =>
    some { state with level := { state.level.add 0 with flags := flags }, isRepeatable := false }
  | .group flags name =>
    if name.any state.names.contains then none
    else
      some { state with
        level := .empty flags
        outer := state.level :: state.outer
        isRepeatable := false
        names := name.toList ++ state.names }

/-- The state after the end of a group, if one is open. -/
def close? (state : State) : Option State :=
  match state.outer with
  | [] => none
  | level :: outer =>
    some { state with
      level := level.add (state.level.depth + 1)
      outer := outer
      isRepeatable := true }

end State

/-- The character after which a repetition takes as little as possible, dropped. -/
def dropLazy : List Char → List Char
  | '?' :: rest => rest
  | cs => cs

/-- One step in a pattern, from its next character. -/
def step? (state : State) (c : Char) (rest : List Char) : Option (State × List Char) :=
  match c with
  | '(' => do
    let (group, rest) ← group? state.flags rest
    return (← state.begin? group, rest)
  | ')' => state.close?.map (·, rest)
  | '|' => some (state.alternative, rest)
  | '[' => do
    let (depth, rest) ←
      class? state.flags (rest.length + 1) .empty [] .nothing (← opened? state.flags rest)
    return (state.add depth, rest)
  | '\x7b' => none
  | '\\' => do
    let (part, rest) ← escape? state.flags rest
    return (← state.part? part, rest)
  | '.' => (state.part? .any).map (·, rest)
  | '^' => (state.part? .anchor).map (·, rest)
  | '$' => (state.part? .anchor).map (·, rest)
  | c =>
    if ['?', '*', '+'].contains c then
      state.repeat?.map (·, dropLazy rest)
    else (state.part? (.char c false)).map (·, rest)

/-- Reads a pattern to its end; `fuel` is more than the number of characters. -/
def run : Nat → State → List Char → Except PatternError Unit
  | 0, _, _ => .error .malformed
  | fuel + 1, state, cs =>
    match state.flags.skip cs with
    | [] =>
      if !state.outer.isEmpty || maxDepth < state.level.depth then .error .malformed
      else if state.asksForEdges then .error .wordEdge
      else .ok ()
    | c :: rest =>
      match step? state c rest with
      | none => .error .malformed
      | some (state, rest) => run fuel state rest

/-- Whether a text is a pattern that can be used. -/
def check (cs : List Char) : Except PatternError Unit := run (cs.length + 1) .initial cs

end FieldPattern

end RegionGateway
