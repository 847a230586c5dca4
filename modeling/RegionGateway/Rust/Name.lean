import RegionGateway.Text.Alphanumeric
import RegionGateway.Text.Blank
import RegionGateway.Text.Case

/-!
# Names in generated Rust code

From declared names to Rust names: `Rust.snakeCase` for functions and fields, `Rust.pascalCase` for
types and accessors, `Rust.ident` for an identifier that is no keyword.
-/

namespace RegionGateway.Rust

/-- The words that are no plain identifiers. -/
def keywords : List String := [
  "as", "async", "await", "box", "break", "const", "continue", "crate", "dyn", "else", "enum",
  "extern", "false", "fn", "for", "if", "impl", "in", "let", "loop", "match", "mod", "move",
  "mut", "pub", "ref", "return", "self", "Self", "static", "struct", "super", "trait", "true",
  "type", "unsafe", "use", "where", "while", "yield"]

/-- Whether a word starts before `c`, which stands between `prev` and `rest`: at a capital after a
small letter or an ASCII digit, and at the last capital of a run if a small letter follows. -/
def startsWord (prev c : Char) (rest : List Char) : Bool :=
  Text.isUpper c &&
    (Text.isLower prev || prev.isDigit ||
      (Text.isUpper prev && (rest.head?.map Text.isLower).getD false))

/-- The characters after `prev` in snake case. -/
def snakeCaseAfter (prev : Char) : List Char → List Char
  | [] => []
  | c :: rest =>
    let lower := Text.lowerChar c
    (if startsWord prev c rest then '_' :: lower else lower) ++ snakeCaseAfter c rest

/-- The characters of a name in snake case. -/
def snakeCaseChars : List Char → List Char
  | [] => []
  | c :: rest => Text.lowerChar c ++ snakeCaseAfter c rest

/-- A name in snake case. -/
def snakeCase (name : String) : String := String.ofList (snakeCaseChars name.toList)

/-- A name with its first character in upper case. -/
def capitalize (name : String) : String :=
  match name.toList with
  | [] => ""
  | c :: rest => String.ofList (Text.upperChar c ++ rest)

/-- A name in Pascal case: its parts between underscores, capitalized. -/
def pascalCase (name : String) : String :=
  Text.join "" ((Text.split '_' name).map capitalize)

/-- The characters of a name that may stand in an identifier; a hyphen becomes an underscore. -/
def identChars (name : String) : List Char :=
  (name.toList.map fun c => if c = '-' then '_' else c).filter fun c =>
    Text.isAlphanumeric c || c == '_'

/-- An identifier made of a name. A keyword is written raw, or with an underscore at its end where
Rust allows no raw form. -/
def sanitize (name : String) : String :=
  let kept := String.ofList (identChars name)
  if kept ∈ ["self", "super", "crate", "Self"] then kept ++ "_"
  else if kept ∈ keywords then "r#" ++ kept
  else kept

/-- The identifier of a function or field with a declared name. -/
def ident (name : String) : String := sanitize (snakeCase name)

/-- Characters without the marks of raw identifiers at their start. -/
def withoutRawMarkChars : List Char → List Char
  | 'r' :: '#' :: rest => withoutRawMarkChars rest
  | cs => cs

/-- An identifier without the mark of a raw identifier. -/
def withoutRawMark (name : String) : String := String.ofList (withoutRawMarkChars name.toList)

/-- The field access path for a dotted path of declared names. -/
def fieldPath (path : String) : String := Text.join "." ((Text.split '.' path).map ident)

/-- What follows the last double colon, if there is one. -/
def afterDoubleColon? : List Char → Option (List Char)
  | [] => none
  | c :: rest =>
    match afterDoubleColon? rest with
    | some tail => some tail
    | none => if c = ':' ∧ rest.head? = some ':' then some (rest.drop 1) else none

/-- The last segment of a module path. -/
def localName (path : String) : String :=
  ((afterDoubleColon? path.toList).map String.ofList).getD path

end RegionGateway.Rust
