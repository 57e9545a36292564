import RestBindings.Toml.Item
import RestBindings.Toml.Scalar

/-! # Reading TOML

A reader takes the characters that are left and gives a result with the characters left after it, or
nothing if they are not well formed.  Line ends are single line feeds here: a carriage return before
a line feed is dropped first, and one that stands alone is a control character, which is allowed
nowhere.  Between the parts of a line there may be blanks; between lines, and inside brackets, also
comments and line ends.
-/
namespace RestBindings
namespace Toml

/-- A reader of an `α` from the characters that are left. -/
abbrev Reader (α : Type) := StateT (List Char) Option α

/-- The characters with single line feeds as line ends. -/
def unixLines : List Char → List Char
  | [] => []
  | c :: rest =>
    if c = '\r' ∧ rest.head? = some '\n' then unixLines rest else c :: unixLines rest

/-- A blank within a line. -/
def isBlank (c : Char) : Bool := c == ' ' || c == '\t'

/-- A character that may stand in a comment or in text on one line. -/
def isPlain (c : Char) : Bool := c == '\t' || (0x20 ≤ c.toNat && c.toNat != 0x7F)

/-- A character of a name that is not quoted. -/
def isBare (c : Char) : Bool := c.isAlphanum || c == '_' || c == '-'

namespace Reader

/-- Show the next character. -/
def next : Reader (Option Char) := fun left => some (left.head?, left)

/-- Take the next character, which must be `c`. -/
def expect (c : Char) : Reader Unit := fun left =>
  if left.head? = some c then some ((), left.tail) else none

/-- Take the characters that come next and are of a kind. -/
def takeWhile (p : Char → Bool) : Reader (List Char) := fun left =>
  some (left.takeWhile p, left.dropWhile p)

/-- Skip blanks. -/
def blanks : Reader Unit := fun left => some ((), left.dropWhile isBlank)

/-- Skip a comment. -/
def comment : Reader Unit := fun left =>
  some ((), if left.head? = some '#' then left.dropWhile isPlain else left)

/-- What is left after blanks, comments and line ends. -/
def afterGap (inComment : Bool) : List Char → List Char
  | [] => []
  | c :: rest =>
    if c = '\n' then afterGap false rest
    else if inComment then if isPlain c then afterGap true rest else c :: rest
    else if isBlank c then afterGap false rest
    else if c = '#' then afterGap true rest
    else c :: rest

/-- Skip blanks, comments and line ends. -/
def gap : Reader Unit := fun left => some ((), afterGap false left)

/-- Take the rest of a line, which says nothing more. -/
def lineEnd : Reader Unit := do
  blanks
  comment
  match ← next with
  | none => pure ()
  | some _ => expect '\n'

/-! ### Text -/

/-- How a text is quoted. -/
structure Quoting where
  /-- The quote at both ends, which is three of them for a text on several lines. -/
  mark : Char
  isMultiline : Bool

/-- Escapes are resolved between double quotes only. -/
def Quoting.hasEscapes (quoting : Quoting) : Bool := quoting.mark == '"'

/-- The value of hexadecimal digits. -/
def hexValue (digits : List Char) : Nat :=
  digits.foldl (fun n c => 16 * n +
    (if c.isDigit then c.toNat - 0x30 else c.toUpper.toNat - 0x37)) 0

/-- The character with a number of hexadecimal digits in front. -/
def hexChar? (count : Nat) (cs : List Char) : Option Char :=
  let digits := cs.take count
  if digits.length = count ∧ digits.all (isDigitOf 16) ∧ (hexValue digits).isValidChar then
    some (Char.ofNat (hexValue digits))
  else none

/-- The character of an escape, and the number of digits it takes after its letter. -/
def escape? (c : Char) (rest : List Char) : Option (Char × Nat) :=
  match c with
  | '"' | '\\' => some (c, 0)
  | 'b' => some ('\x08', 0)
  | 'e' => some ('\x1b', 0)
  | 'f' => some ('\x0c', 0)
  | 'n' => some ('\n', 0)
  | 'r' => some ('\r', 0)
  | 't' => some ('\t', 0)
  | 'x' => (hexChar? 2 rest).map (·, 2)
  | 'u' => (hexChar? 4 rest).map (·, 4)
  | 'U' => (hexChar? 8 rest).map (·, 8)
  | _ => none

/-- What is left after a backslash that ends a line and the white space after it. -/
def afterLineEnd? (quoting : Quoting) (rest : List Char) : Option (List Char) :=
  if quoting.isMultiline ∧ (rest.dropWhile isBlank).head? = some '\n' then
    some (rest.dropWhile fun c => isBlank c || c == '\n')
  else none

/-- Put characters before those of a text. -/
def putChars (cs : List Char) (read : Option (List Char × List Char)) :
    Option (List Char × List Char) :=
  read.map fun (text, left) => (cs ++ text, left)

/-- The characters of a text after its opening quote, and what is left after the closing one.  Up to
two quotes may stand before the three that close a text on several lines.  No step gives back what
was taken, so the length of the text bounds their number. -/
def textChars (quoting : Quoting) : (fuel : Nat) → List Char → Option (List Char × List Char)
  | 0, _ => none
  | _, [] => none
  | fuel + 1, c :: rest =>
    if c = quoting.mark then
      if !quoting.isMultiline then some ([], rest)
      else
        let more := (rest.takeWhile (· == quoting.mark)).length
        if more < 2 then putChars [c] (textChars quoting fuel rest)
        else some (List.replicate (min (more - 2) 2) c, rest.drop (min more 4))
    else if c = '\\' ∧ quoting.hasEscapes then
      match afterLineEnd? quoting rest, rest with
      | some left, _ => textChars quoting fuel left
      | none, [] => none
      | none, e :: rest =>
        match escape? e rest with
        | some (c, digits) => putChars [c] (textChars quoting fuel (rest.drop digits))
        | none => none
    else if isPlain c ∨ (c = '\n' ∧ quoting.isMultiline) then
      putChars [c] (textChars quoting fuel rest)
    else none

/-- Read a text after its opening quote. -/
def textIn (quoting : Quoting) : Reader String := fun left =>
  (textChars quoting (left.length + 1) left).map fun (cs, left) => (String.ofList cs, left)

/-- Read a text on one line, after its opening quote. -/
def lineText (mark : Char) : Reader String := textIn { mark, isMultiline := false }

/-- Read a text on one line or several.  A line end right after three quotes is not part of it. -/
def text (mark : Char) : Reader String := fun left =>
  match left.take 3 == List.replicate 3 mark, left.drop 3 with
  | true, '\n' :: left => textIn { mark, isMultiline := true } left
  | true, left => textIn { mark, isMultiline := true } left
  | false, _ => lineText mark left.tail

/-! ### Names and values -/

/-- Read one part of a dotted name. -/
def name : Reader String := do
  match ← next with
  | some '"' => expect '"'; lineText '"'
  | some '\'' => expect '\''; lineText '\''
  | _ =>
    let cs ← takeWhile isBare
    if cs.isEmpty then failure else pure (String.ofList cs)

/-- Read a dotted name, within `fuel` parts. -/
def pathUpTo : (fuel : Nat) → Reader (List String)
  | 0 => failure
  | fuel + 1 => do
    blanks
    let first ← name
    blanks
    match ← next with
    | some '.' =>
      expect '.'
      let rest ← pathUpTo fuel
      pure (first :: rest)
    | _ => pure [first]

/-- Read a dotted name and the blanks around it. -/
def path : Reader (List String) := fun left => pathUpTo (left.length + 1) left

/-- A character of a word that is no text. -/
def isWordChar (c : Char) : Bool :=
  c.isAlphanum || c == '+' || c == '-' || c == '_' || c == '.' || c == ':'

/-- Read a word that is no text.  A space may stand between a date and a time. -/
def scalar : Reader Item := do
  let word ← takeWhile isWordChar
  let left ← get
  let isSplit := isDate word && left.head? == some ' '
    && (left.tail.head?.map Char.isDigit).getD false
  let word ← if isSplit then do
      expect ' '
      let time ← takeWhile isWordChar
      pure (word ++ ' ' :: time)
    else pure word
  if isScalar word then pure (.scalar (String.ofList word)) else failure

/-- Read the items of a list after its opening bracket, and the closing bracket. -/
def items (item : Reader Item) : (fuel : Nat) → Reader (List Item)
  | 0 => failure
  | fuel + 1 => do
    gap
    match ← next with
    | some ']' => expect ']'; pure []
    | _ =>
      let first ← item
      gap
      match ← next with
      | some ',' =>
        expect ','
        let rest ← items item fuel
        pure (first :: rest)
      | _ => expect ']'; pure [first]

/-- Read the entries of an inline table after its opening brace, and the closing brace. -/
def inlineEntries (item : Reader Item) : (fuel : Nat) → Entries → Reader Entries
  | 0, _ => failure
  | fuel + 1, entries => do
    gap
    match ← next with
    | some '\x7d' => expect '\x7d'; pure entries
    | _ =>
      let path ← path
      expect '='
      blanks
      let value ← item
      let entries ← StateT.lift (entries.add value path)
      gap
      match ← next with
      | some ',' =>
        expect ','
        inlineEntries item fuel entries
      | _ => expect '\x7d'; pure entries

/-- Read a value whose items and entries are read by `inner`; without it no bracket may be
opened. -/
def itemAround (inner? : Option (Reader Item)) : Reader Item := do
  match ← next with
  | some '"' => .text <$> text '"'
  | some '\'' => .text <$> text '\''
  | some '[' =>
    match inner? with
    | none => failure
    | some inner =>
      expect '['
      let left ← get
      .list <$> items inner (left.length + 1)
  | some '\x7b' =>
    match inner? with
    | none => failure
    | some inner =>
      expect '\x7b'
      let left ← get
      .table .closed <$> inlineEntries inner (left.length + 1) []
  | _ => scalar

/-- Read any value, with at most `depth` brackets open at once. -/
def item : (depth : Nat) → Reader Item
  | 0 => itemAround none
  | depth + 1 => itemAround (some (item depth))

/-- The number of brackets that may be open at once. -/
def depthLimit : Nat := 80

/-! ### Documents -/

/-- Read a statement, without the end of its line. -/
def statement : Reader Statement := do
  match ← next with
  | some '[' =>
    expect '['
    match ← next with
    | some '[' =>
      expect '['
      let path ← path
      expect ']'
      expect ']'
      pure (.element path)
    | _ =>
      let path ← path
      expect ']'
      pure (.header path)
  | _ =>
    let path ← path
    expect '='
    blanks
    let item ← item depthLimit
    pure (.entry path item)

/-- Read all statements, within `fuel` of them. -/
def statements : (fuel : Nat) → Reader (List Statement)
  | 0 => failure
  | fuel + 1 => do
    gap
    match ← next with
    | none => pure []
    | some _ =>
      let first ← statement
      lineEnd
      let rest ← statements fuel
      pure (first :: rest)

end Reader

/-- The characters without a byte order mark in front. -/
def dropMark (cs : List Char) : List Char :=
  if cs.head? = some '\ufeff' then cs.tail else cs

/-- The entries of a document, if it is well formed. -/
def parse? (source : String) : Option Entries :=
  let cs := unixLines (dropMark source.toList)
  (Reader.statements (cs.length + 1) cs).bind fun (statements, _) => entriesOf statements

end Toml
end RestBindings
