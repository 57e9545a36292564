/-! # Quoted text

The written form of a text in JSON and in JavaScript: double quotes around it, a backslash before a
quote or a backslash, short escapes for the usual control characters and `\u00xx` for the others.
Everything from U+0020 on is written as it is.
-/
namespace RestBindings
namespace Text

/-- The lower-case hexadecimal digit of a number below 16. -/
def hexDigit (n : Nat) : Char :=
  if n < 10 then Char.ofNat (0x30 + n) else Char.ofNat (0x57 + n)

/-- One character inside a quoted text. -/
def escape (c : Char) : List Char :=
  if c = '"' then ['\\', '"']
  else if c = '\\' then ['\\', '\\']
  else if c = '\x08' then ['\\', 'b']
  else if c = '\x0c' then ['\\', 'f']
  else if c = '\n' then ['\\', 'n']
  else if c = '\r' then ['\\', 'r']
  else if c = '\t' then ['\\', 't']
  else if c.toNat < 0x20 then
    ['\\', 'u', '0', '0', hexDigit (c.toNat / 16), hexDigit (c.toNat % 16)]
  else [c]

/-- The characters of a quoted text. -/
def quoteChars (cs : List Char) : List Char :=
  '"' :: cs.flatMap escape ++ ['"']

/-- A text as a quoted literal. -/
def quote (s : String) : String := String.ofList (quoteChars s.toList)

@[simp] theorem toList_quote (s : String) : (quote s).toList = quoteChars s.toList := by
  simp [quote]

end Text
end RestBindings
