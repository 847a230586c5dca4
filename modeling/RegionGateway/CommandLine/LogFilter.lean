import RegionGateway.CommandLine.FieldPattern
import RegionGateway.Files.Disk
import RegionGateway.Text.Quoted

/-!
# Log filters

A filter is a list of directives between commas. A directive is a level, a target, or a target with a
level; a target may name a span in brackets, with a field in braces, which may be compared with a
number or a pattern. The empty filter is one.
-/

namespace RegionGateway

/-- Why a text is no filter. -/
inductive FilterError where
  /-- What stands where a level has to stand is none. -/
  | level
  /-- A directive is not built as it should be. -/
  | directive
  /-- A field is compared with what is no pattern. -/
  | field (error : PatternError)
  /-- A piece of a directive begins or ends inside a character. -/
  | torn
  deriving DecidableEq

/-- The wording of a refusal. -/
def FilterError.message : FilterError → String
  | .level =>
    "error parsing level filter: expected one of \"off\", \"error\", \"warn\", \"info\", \"debug\", " ++
      "\"trace\", or a number 0-5"
  | .directive => "invalid filter directive"
  | .field .malformed => "invalid field filter: error building NFA"
  | .field .wordEdge =>
    "invalid field filter: unsupported regex feature for DFAs: cannot build DFAs for regexes with " ++
      "Unicode word boundaries; switch to ASCII word boundaries, or heuristically enable Unicode " ++
      "word boundaries or use a different regex engine"
  | .torn => "a piece of a directive begins or ends inside a character"

namespace LogFilter

/-- The words for levels. -/
def levelNames : List String := ["off", "error", "warn", "info", "debug", "trace"]

/-- A character with an ASCII capital replaced by its small letter. -/
def lowerAscii (c : Char) : Char := if c.isUpper then Char.ofNat (c.toNat + 32) else c

/-- Whether a text is a level: a word, in capitals or not, or a number up to five. -/
def isLevel (cs : List Char) : Bool :=
  let digits := match cs with
    | '+' :: rest => rest
    | cs => cs
  (!digits.isEmpty && digits.all Char.isDigit &&
      digits.foldl (fun n c => n * 10 + (c.toNat - '0'.toNat)) 0 ≤ 5) ||
    levelNames.any (·.toList == cs.map lowerAscii)

/-- Whether a directive may begin with a character. -/
def startsDirective (c : Char) : Bool := c == '-' || c == ':' || c == '_' || Text.isAlphanumeric c

/-- Whether characters are digits with a point among them or not; there is a digit. -/
def areDecimal (cs : List Char) : Bool :=
  match Text.splitChars (· == '.') cs with
  | [whole] => !whole.isEmpty && whole.all Char.isDigit
  | [whole, fraction] => !(whole.isEmpty && fraction.isEmpty) && (whole ++ fraction).all Char.isDigit
  | _ => false

/-- Characters without the sign at their front. -/
def unsigned : List Char → List Char
  | '+' :: rest => rest
  | '-' :: rest => rest
  | cs => cs

/-- Whether characters are a number, with or without sign, point and exponent. -/
def isNumber (cs : List Char) : Bool :=
  let cs := (unsigned cs).map lowerAscii
  ["inf", "infinity", "nan"].any (·.toList == cs) ||
    match Text.splitChars (· == 'e') cs with
    | [mantissa] => areDecimal mantissa
    | [mantissa, exponent] =>
      areDecimal mantissa && !(unsigned exponent).isEmpty && (unsigned exponent).all Char.isDigit
    | _ => false

/-- A field: its name, and after an equals sign what it is compared with. What follows a second equals
sign does not matter. -/
def checkField (cs : List Char) : Except FilterError Unit :=
  match Text.splitChars (· == '=') cs with
  | _ :: value :: _ => if isNumber value then .ok () else (FieldPattern.check value).mapError .field
  | _ => .ok ()

/-! ## Directives

The parts of a directive are found in it without the blanks around it, but taken from the directive as
given, at the same places, which are counted in bytes. So a directive with blanks at its front has other
parts than it shows, and a part may begin or end inside a character. -/

/-- A directive as given. -/
structure Directive where
  given : Bytes
  /-- Whether there are blanks around it. -/
  padded : Bool

namespace Directive

/-- Whether a place lies between two characters, or at the end. -/
def isEdge (directive : Directive) (place : Nat) : Bool :=
  (directive.given[place]?).all fun b => b < 0x80 || 0xC0 ≤ b

/-- The characters between two places. -/
def piece (directive : Directive) (start stop : Nat) : Except FilterError (List Char) :=
  if directive.isEdge start && directive.isEdge stop then
    .ok (Utf8.decodeLossy ((directive.given.take stop).drop start))
  else .error .torn

/-- A level after an equals sign, from its place; none at all will do. Where there are blanks around the
directive, nothing is a level. -/
def level (directive : Directive) (place : Nat) (cs : List Char) : Except FilterError Unit := do
  let _ ← directive.piece place directive.given.length
  if !directive.padded && (cs.isEmpty || isLevel cs) then return else throw .level

/-- What may follow a span: nothing, or an equals sign and a level. -/
def afterSpan (directive : Directive) (place : Nat) : List Char → Except FilterError Unit
  | [] => .ok ()
  | '=' :: level => directive.level (place + 1) level
  | _ => .error .directive

/-- The field of a span from after the brace. -/
def field (directive : Directive) (place : Nat) (cs : List Char) : Except FilterError Unit := do
  let content := cs.takeWhile (· != '\x7d')
  let stop := place + (Utf8.encode content).length
  match cs.drop content.length with
  | [] => throw .directive
  | _ :: rest =>
    let content ← directive.piece place stop
    if content.isEmpty then throw .directive
    checkField content
    match rest with
    | ']' :: rest => directive.afterSpan (stop + 2) rest
    | _ => throw .directive

/-- A span that begins at `start`, from a place in it. -/
def span (directive : Directive) (start place : Nat) : List Char → Except FilterError Unit
  | [] => .error .directive
  | ']' :: rest => do
    let _ ← directive.piece start place
    directive.afterSpan (place + 1) rest
  | '\x7b' :: rest => do
    let _ ← directive.piece start place
    directive.field (place + 1) rest
  | c :: rest => span directive start (place + c.utf8Size) rest

/-- A directive from a place in its first word. A word that is no level is a target. -/
def targetOrLevel (directive : Directive) (place : Nat) : List Char → Except FilterError Unit
  | [] => .ok ()
  | '=' :: level => do
    let _ ← directive.piece 0 place
    directive.level (place + 1) level
  | '[' :: rest => do
    let _ ← directive.piece 0 place
    directive.span (place + 1) (place + 1) rest
  | c :: rest => targetOrLevel directive (place + c.utf8Size) rest

end Directive

/-- Whether a text is a directive. -/
def checkDirective (cs : List Char) : Except FilterError Unit :=
  let trimmed := Text.trimChars cs
  let directive : Directive := ⟨Utf8.encode cs, trimmed != cs⟩
  match trimmed with
  | [] => .error .directive
  | '[' :: rest => directive.span 1 1 rest
  | c :: rest =>
    if startsDirective c then directive.targetOrLevel c.utf8Size rest else .error .directive

/-- A filter. Empty directives are passed over. -/
def check (filter : String) : Except FilterError Unit :=
  (((Text.split ',' filter).filter (· != "")).map String.toList).forM checkDirective

end LogFilter

/-- Why logging cannot be set up. -/
inductive LoggingError where
  | badLevel (level : String) (error : FilterError)
  | file (path : String) (error : IoError)
  deriving DecidableEq

/-- The wording of a failure. -/
def LoggingError.message : LoggingError → String
  | .badLevel level error => "invalid log level " ++ Text.quoted level ++ ": " ++ error.message
  | .file path error => "failed to open log file " ++ path ++ ": " ++ error.message

namespace Logging

/-- Sets up logging. A valid filter of the environment counts instead of the configured level, which
is not looked at then. The log file is created even if nothing is logged. -/
def start [Monad m] (disk : Disk m) (override : Option String) (level : String)
    (file : Option String) : ExceptT LoggingError m Unit := do
  let overridden ← match override.map LogFilter.check with
    | some (.error .torn) => throw (.badLevel level .torn)
    | some result => pure result.toBool
    | none => pure false
  if !overridden then
    match LogFilter.check level with
    | .ok () => pure ()
    | .error e => throw (.badLevel level e)
  match file with
  | none => return
  | some path => (disk.openAtEnd path).adapt (.file path)

end Logging

end RegionGateway
