import RegionGateway.Text.Turn

/-!
# Scanning TOML

A scanner takes characters off the front of a document, or refuses it. The place where it does so is not
kept. `Scan.loop` repeats a step; each step that goes on takes a character at least.
-/

namespace RegionGateway.Toml

/-- Why a document is refused. -/
inductive Refusal where
  /-- It is not built as a document, or does not say what it should. -/
  | malformed
  /-- A key has too many parts. -/
  | tooDeep
  deriving DecidableEq

/-- Takes a value off the front of a document. -/
abbrev Scan (α : Type) := StateT (List Char) (Except Refusal) α

namespace Scan

/-- The document is refused. -/
def refuse (refusal : Refusal) : Scan α := fun _ => .error refusal

/-- The document is malformed. -/
def fail : Scan α := refuse .malformed

/-- Goes on if a condition holds. -/
def check (condition : Bool) : Scan Unit := if condition then pure () else fail

/-- The next character, which stays in the document; none at the end. -/
def peek : Scan (Option Char) := fun cs => .ok (cs.head?, cs)

/-- Drops the next character. -/
def advance : Scan Unit := fun cs => .ok ((), cs.drop 1)

/-- Drops given characters if they come next, and says so. -/
def dropIf (expected : List Char) : Scan Bool := fun cs =>
  if expected.isPrefixOf cs then .ok (true, cs.drop expected.length) else .ok (false, cs)

/-- Drops given characters, which have to come next. -/
def expect (expected : List Char) : Scan Unit := do check (← dropIf expected)

/-- The characters at the front that satisfy a condition. -/
def takeWhile (p : Char → Bool) : Scan (List Char) := fun cs =>
  .ok (cs.takeWhile p, cs.dropWhile p)

/-- A scanner that a function on characters gives. -/
def ofFunction (f : List Char → Option (List Char × List Char)) : Scan (List Char) := fun cs =>
  match f cs with
  | some result => .ok result
  | none => .error .malformed

/-- Repeats a step at most so many times. -/
def loopFor (step : σ → Scan (Turn σ α)) : Nat → σ → Scan α
  | 0, _ => fail
  | fuel + 1, state => do
    match ← step state with
    | .again state => loopFor step fuel state
    | .done result => return result

/-- Repeats a step until it is done. -/
def loop (step : σ → Scan (Turn σ α)) (state : σ) : Scan α :=
  fun cs => loopFor step (cs.length + 1) state cs

/-! ## Between tokens -/

/-- Blanks within a line. -/
def isSpace (c : Char) : Bool := c == ' ' || c == '\t'

/-- Drops the blanks at the front. -/
def spaces : Scan Unit := do let _ ← takeWhile isSpace

/-- Whether a character may stand in comments and literal text. -/
def isPrintable (c : Char) : Bool := c == '\t' || (' ' ≤ c && c != '\x7F')

/-- Drops a line's end, if it comes next, and says so. -/
def lineEnd : Scan Bool := do
  if ← dropIf ['\r', '\n'] then return true
  dropIf ['\n']

/-- Drops a comment, if one comes next. -/
def comment : Scan Unit := do
  if ← dropIf ['#'] then
    let _ ← takeWhile isPrintable

/-- Drops blanks, comments and line ends. -/
def gaps : Scan Unit :=
  loop (fun () => do
    spaces
    comment
    if ← lineEnd then return .again () else return .done ()) ()

end Scan

end RegionGateway.Toml
