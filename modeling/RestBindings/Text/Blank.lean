import RestBindings.Text.CodePoint

/-! # White space and lines

What counts as white space (the Unicode property `White_Space`), trimming, and the lines of a text.
A line ends at a line feed, or at a carriage return with a line feed after it; the last line needs
no end, and a text that ends in a line feed has no empty line after it.
-/
namespace RestBindings
namespace Text

/-- The code points with the property `White_Space`. -/
def blankRanges : Ranges :=
  [(0x9, 0xD), (0x20, 0x20), (0x85, 0x85), (0xA0, 0xA0), (0x1680, 0x1680), (0x2000, 0x200A),
   (0x2028, 0x2029), (0x202F, 0x202F), (0x205F, 0x205F), (0x3000, 0x3000)]

/-- A white space character. -/
def isBlank (c : Char) : Bool := blankRanges.holds c.toNat

/-- The characters without white space at the end. -/
def trimEnd (cs : List Char) : List Char :=
  (cs.reverse.dropWhile isBlank).reverse

/-- The characters without white space at either end. -/
def trim (cs : List Char) : List Char :=
  trimEnd (cs.dropWhile isBlank)

/-- A text that holds nothing but white space. -/
def isBlankText (s : String) : Bool := s.toList.all isBlank

/-- A line without the carriage return of its end. -/
def dropReturn (line : List Char) : List Char :=
  if line.getLast? = some '\r' then line.dropLast else line

/-- The lines of a list of characters; `line` holds the characters since the last line feed, in
reverse. -/
def linesFrom (line : List Char) : List Char → List (List Char)
  | [] => if line.isEmpty then [] else [line.reverse]
  | '\n' :: rest => dropReturn line.reverse :: linesFrom [] rest
  | c :: rest => linesFrom (c :: line) rest

/-- The lines of a text. -/
def lines (s : String) : List String :=
  (linesFrom [] s.toList).map String.ofList

@[simp] theorem linesFrom_nil : linesFrom [] [] = [] := rfl

end Text
end RestBindings
