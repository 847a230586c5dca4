import RegionGateway.Text.Blank
import RegionGateway.Toml.Scan

/-!
# Strings in TOML

Four ways to write a string: with or without escapes, on one line or on several. A writer takes the
first way that shows the string as it is; if none does, it escapes.
-/

namespace RegionGateway.Toml.StringText

/-! ## Reading -/

/-- The value of a hexadecimal digit. -/
def hexValue? (c : Char) : Option Nat :=
  if c.isDigit then some (c.toNat - '0'.toNat)
  else if 'a' ≤ c ∧ c ≤ 'f' then some (c.toNat - 'a'.toNat + 10)
  else if 'A' ≤ c ∧ c ≤ 'F' then some (c.toNat - 'A'.toNat + 10)
  else none

/-- The character whose code is written in hexadecimal digits. -/
def ofCode? (digits : List Char) : Option Char := do
  let values ← digits.mapM hexValue?
  let n := values.foldl (fun n d => n * 16 + d) 0
  if h : n.isValidChar then some (Char.ofNatAux n h) else none

/-- The character that an escape of one character stands for. -/
def ofEscape? : Char → Option Char
  | 'b' => some '\x08'
  | 't' => some '\t'
  | 'n' => some '\n'
  | 'f' => some '\x0C'
  | 'r' => some '\r'
  | 'e' => some '\x1B'
  | '"' => some '"'
  | '\\' => some '\\'
  | _ => none

/-- The character that an escape stands for, and what follows the escape; the backslash is gone. -/
def escape? : List Char → Option (Char × List Char)
  | 'x' :: a :: b :: rest => (ofCode? [a, b]).map (·, rest)
  | 'u' :: a :: b :: c :: d :: rest => (ofCode? [a, b, c, d]).map (·, rest)
  | 'U' :: a :: b :: c :: d :: e :: f :: g :: h :: rest =>
    (ofCode? [a, b, c, d, e, f, g, h]).map (·, rest)
  | c :: rest => (ofEscape? c).map (·, rest)
  | [] => none

/-- Puts a character before a text that was read. -/
def put (c : Char) : Option (List Char × List Char) → Option (List Char × List Char) :=
  Option.map fun (content, rest) => (c :: content, rest)

/-- The content of a one-line string with escapes, and what follows its closing quote. -/
def basic : Nat → List Char → Option (List Char × List Char)
  | 0, _ => none
  | fuel + 1, cs =>
    match cs with
    | [] => none
    | '"' :: rest => some ([], rest)
    | '\\' :: rest => do
      let (c, rest) ← escape? rest
      put c (basic fuel rest)
    | c :: rest => if Scan.isPrintable c then put c (basic fuel rest) else none

/-- The content of a one-line string without escapes. -/
def literal : List Char → Option (List Char × List Char)
  | [] => none
  | '\'' :: rest => some ([], rest)
  | c :: rest => if Scan.isPrintable c then put c (literal rest) else none

/-- The end of a string on several lines: three quotes, and two more that belong to the content. -/
def close? (quote : Char) : List Char → Option (List Char × List Char)
  | a :: b :: c :: rest =>
    if a = quote ∧ b = quote ∧ c = quote then
      let more := (rest.take 2).takeWhile (· == quote)
      some (more, rest.drop more.length)
    else none
  | _ => none

/-- A line end at the front, dropped. -/
def dropLineEnd : List Char → List Char
  | '\r' :: '\n' :: rest => rest
  | '\n' :: rest => rest
  | cs => cs

/-- Whether the rest of a line is blank, and the line ends. -/
def lineIsBlank (cs : List Char) : Bool :=
  let rest := cs.dropWhile Scan.isSpace
  rest.head? == some '\n' || ['\r', '\n'].isPrefixOf rest

/-- Drops blanks and line ends. -/
def dropGaps : List Char → List Char
  | '\r' :: '\n' :: rest => dropGaps rest
  | c :: rest => if Scan.isSpace c || c == '\n' then dropGaps rest else c :: rest
  | [] => []

/-- Whether a character may stand in a string on several lines. -/
def isLineText (c : Char) (rest : List Char) : Bool :=
  Scan.isPrintable c || c == '\n' || (c == '\r' && rest.head? == some '\n')

/-- The content of a string on several lines with escapes. A backslash at the end of a line joins it
with the next text. -/
def basicLines : Nat → List Char → Option (List Char × List Char)
  | 0, _ => none
  | fuel + 1, cs =>
    match close? '"' cs, cs with
    | some result, _ => some result
    | none, [] => none
    | none, '\\' :: rest =>
      if lineIsBlank rest then basicLines fuel (dropGaps rest)
      else do
        let (c, rest) ← escape? rest
        put c (basicLines fuel rest)
    | none, c :: rest => if isLineText c rest then put c (basicLines fuel rest) else none

/-- The content of a string on several lines without escapes. -/
def literalLines : List Char → Option (List Char × List Char)
  | [] => none
  | c :: rest =>
    match close? '\'' (c :: rest) with
    | some result => some result
    | none => if isLineText c rest then put c (literalLines rest) else none

/-- A one-line string and what follows it. -/
def oneLine? : List Char → Option (List Char × List Char)
  | '"' :: rest => basic (rest.length + 1) rest
  | '\'' :: rest => literal rest
  | _ => none

/-- A string and what follows it. -/
def read? : List Char → Option (List Char × List Char)
  | '"' :: '"' :: '"' :: rest =>
    let content := dropLineEnd rest
    basicLines (content.length + 1) content
  | '\'' :: '\'' :: '\'' :: rest => literalLines (dropLineEnd rest)
  | cs => oneLine? cs

/-! ## Writing -/

/-- Whether a run of so many quotes occurs. -/
def hasRun (quote : Char) (n : Nat) : List Char → Bool
  | [] => false
  | c :: rest => (List.replicate n quote).isPrefixOf (c :: rest) || hasRun quote n rest

/-- Whether a character can only be shown by its code. -/
def needsCode (c : Char) : Bool := (c < ' ' && c != '\t' && c != '\n') || c == '\x7F'

/-- A digit in upper case. -/
def upperHex (n : Nat) : Char := (Nat.digitChar n).toUpper

/-- The escape for a character; none for a character that is written as it is. -/
def escaped? (c : Char) : Option (List Char) :=
  match c with
  | '\x08' => some ['\\', 'b']
  | '\t' => some ['\\', 't']
  | '\n' => some ['\\', 'n']
  | '\x0C' => some ['\\', 'f']
  | '\r' => some ['\\', 'r']
  | '"' => some ['\\', '"']
  | '\\' => some ['\\', '\\']
  | c =>
    if needsCode c then
      some ['\\', 'u', '0', '0', upperHex (c.toNat / 16), upperHex (c.toNat % 16)]
    else none

/-- A string on one line with escapes. -/
def writeBasic (cs : List Char) : List Char :=
  '"' :: cs.flatMap (fun c => (escaped? c).getD [c]) ++ ['"']

/-- The content of a string on several lines with escapes: line ends stand as they are, and so do
quotes, but for every third of a run. -/
def linesContent : Nat → List Char → List Char
  | _, [] => []
  | quotes, '"' :: rest =>
    if quotes < 2 then '"' :: linesContent (quotes + 1) rest
    else '\\' :: '"' :: linesContent 0 rest
  | _, '\n' :: rest => '\n' :: linesContent 0 rest
  | _, c :: rest => (escaped? c).getD [c] ++ linesContent 0 rest

/-- A delimiter of strings on several lines; a line end after it is not part of the string. -/
def openLines (quote : Char) (cs : List Char) : List Char :=
  List.replicate 3 quote ++ if cs.any (· == '\n') then ['\n'] else []

/-- A string on several lines with escapes. -/
def writeLines (cs : List Char) : List Char :=
  openLines '"' cs ++ linesContent 0 cs ++ List.replicate 3 '"'

/-- A string. -/
def write (cs : List Char) : List Char :=
  let codes := cs.any needsCode
  let backslash := cs.any (· == '\\')
  let lineEnds := cs.any (· == '\n')
  if !codes && !backslash && !lineEnds && !cs.any (· == '"') then writeBasic cs
  else if !codes && !lineEnds && !cs.any (· == '\'') then '\'' :: cs ++ ['\'']
  else if !codes && !backslash && !hasRun '"' 3 cs then writeLines cs
  else if !codes && !hasRun '\'' 3 cs then openLines '\'' cs ++ cs ++ List.replicate 3 '\''
  else if lineEnds then writeLines cs
  else writeBasic cs

end RegionGateway.Toml.StringText
