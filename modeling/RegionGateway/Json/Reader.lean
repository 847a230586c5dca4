import RegionGateway.Json.Fault
import RegionGateway.Text.Turn
import RegionGateway.Text.Utf8

/-!
# Readers

A reader takes bytes off the front of its input and gives a value or a fault. Readers are a monad;
`Reader.loop` is the one way to repeat a step an unknown number of times. Input is looked at a byte
at a time; `Reader.peek` shows the byte as the character of that code, so that punctuation can be
compared with character literals.
-/

namespace RegionGateway

/-- Reads a value off the front of the input. -/
abbrev Reader (α : Type) := StateT Bytes (Except Fault) α

namespace Reader

/-- Stops with a fault. -/
def fail (fault : Fault) : Reader α := fun _ => .error fault

/-- The next byte, which stays in the input; none at the end. -/
def peek : Reader (Option Char) :=
  fun input => .ok (input.head?.map fun b => Char.ofNat b.toNat, input)

/-- Drops the next byte. -/
def advance : Reader Unit := fun input => .ok ((), input.drop 1)

/-- The next byte; none at the end. -/
def next : Reader (Option Char) := do
  let c ← peek
  advance
  return c

/-- The four characters that may stand between tokens. -/
def isBlank (b : UInt8) : Bool := b == 0x20 || b == 0x09 || b == 0x0A || b == 0x0D

/-- Drops the blanks at the front of the input. -/
def skipBlanks : Reader Unit := fun input => .ok ((), input.dropWhile isBlank)

/-- The first byte after the blanks, which stays in the input. -/
def peekToken : Reader (Option Char) := do
  skipBlanks
  peek

/-- Repeats a step at most so many times. -/
def loopFor (step : σ → Reader (Turn σ α)) : Nat → σ → Reader α
  | 0, _ => fail .endInValue
  | fuel + 1, state => do
    match ← step state with
    | .again state => loopFor step fuel state
    | .done result => return result

/-- Repeats a step until it is done. A step that goes on has to take at least one byte; then the
number of bytes in the input bounds the number of steps. -/
def loop (step : σ → Reader (Turn σ α)) (state : σ) : Reader α :=
  fun input => loopFor step (input.length + 1) state input

/-- The digits at the front of the input. -/
def digits : Reader (List Nat) := fun input =>
  let isDigit := fun b : UInt8 => 0x30 ≤ b && b ≤ 0x39
  .ok ((input.takeWhile isDigit).map (·.toNat - 0x30), input.dropWhile isDigit)

/-- Reads the rest of a literal word. -/
def word : List Char → Reader Unit
  | [] => return ()
  | c :: cs => do
    match ← next with
    | none => fail .endInValue
    | some d => if d = c then word cs else fail .wordExpected

/-- Reads a whole text: nothing but blanks may follow the value. -/
def whole (reader : Reader α) (text : Bytes) : Except Fault α :=
  match reader text with
  | .error fault => .error fault
  | .ok (value, rest) => if rest.all isBlank then .ok value else .error .trailingCharacters

end Reader

end RegionGateway
