/-!
# White space, lines and separators

Operations on text seen as a list of characters: trimming Unicode white space, splitting at a
separator and joining again. `Text.clean` is the normal form generated source is stored in.
-/

namespace RegionGateway.Text

/-- Unicode white space. -/
def isBlank (c : Char) : Bool :=
  let n := c.toNat
  (9 ≤ n && n ≤ 13) || n == 0x20 || n == 0x85 || n == 0xA0 || n == 0x1680 ||
    (0x2000 ≤ n && n ≤ 0x200A) || n == 0x2028 || n == 0x2029 || n == 0x202F || n == 0x205F ||
    n == 0x3000

/-- A list without its longest final part of elements that satisfy `p`. -/
def dropEndWhile (p : α → Bool) : List α → List α
  | [] => []
  | a :: as =>
    match dropEndWhile p as with
    | [] => if p a then [] else [a]
    | kept => a :: kept

/-- Characters without the white space at their end. -/
def trimEnd (cs : List Char) : List Char := dropEndWhile isBlank cs

/-- Characters without the white space at either end. -/
def trimChars (cs : List Char) : List Char := trimEnd (cs.dropWhile isBlank)

/-- A text without the white space at either end. -/
def trim (s : String) : String := String.ofList (trimChars s.toList)

/-- The parts of a list between the elements that satisfy `p`; one part more than there are such
elements. -/
def splitChars (p : Char → Bool) : List Char → List (List Char)
  | [] => [[]]
  | c :: cs =>
    if p c then [] :: splitChars p cs
    else
      match splitChars p cs with
      | [] => [[c]]
      | part :: parts => (c :: part) :: parts

/-- The parts of a text between the occurrences of a separator. -/
def split (sep : Char) (s : String) : List String :=
  (splitChars (· == sep) s.toList).map String.ofList

/-- Texts one after the other with a separator between them. -/
def join (sep : String) : List String → String
  | [] => ""
  | [s] => s
  | s :: rest => s ++ sep ++ join sep rest

/-- The last of the parts of a text between the occurrences of a separator. -/
def lastPart (sep : Char) (s : String) : String := (split sep s).getLastD s

/-- Whether a text begins with another. -/
def startsWith (start s : String) : Bool := start.toList.isPrefixOf s.toList

/-- Whether characters stand somewhere among others, one after the other. -/
def containsChars (part : List Char) : List Char → Bool
  | [] => part.isEmpty
  | c :: cs => part.isPrefixOf (c :: cs) || containsChars part cs

/-- Whether a text has a given part. -/
def contains (part s : String) : Bool := containsChars part.toList s.toList

/-- A text without a given end, if it has that end. -/
def dropEnd? (ending s : String) : Option String :=
  if ending.toList.isSuffixOf s.toList then
    some (String.ofList (s.toList.take (s.toList.length - ending.toList.length)))
  else none

/-- A text without a given beginning, if it has that beginning. -/
def dropStart? (start s : String) : Option String :=
  if start.toList.isPrefixOf s.toList then some (String.ofList (s.toList.drop start.toList.length))
  else none

/-- The text before the first occurrence of a character and the text after it. -/
def cut? (mark : Char) (s : String) : Option (String × String) :=
  match s.toList.dropWhile (· != mark) with
  | [] => none
  | _ :: rest => some (String.ofList (s.toList.takeWhile (· != mark)), String.ofList rest)

/-- Lines without white space at their ends and without blank lines at the end of the text, each
ended by one line feed. -/
def clean (s : String) : String :=
  let lines := (splitChars (· == '\n') s.toList).map trimEnd
  String.ofList ((dropEndWhile List.isEmpty lines).flatMap (· ++ ['\n']))

end RegionGateway.Text
