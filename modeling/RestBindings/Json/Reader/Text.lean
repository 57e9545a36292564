import RestBindings.Json.Reader.Basic

/-! # Reading quoted text

Two readers start after the opening quote and end after the closing one.  `textChars` gives the
characters: escapes are resolved, a pair of surrogate escapes is one character and a surrogate on
its own is refused.  `skipTextChars` gives nothing: it checks the form of escapes and that no
control character stands in the text, and lets lone surrogates pass.
-/
namespace RestBindings
namespace Json
namespace Reader

/-- The value of a hexadecimal digit. -/
def hexValue? (c : Char) : Option Nat :=
  if c.isDigit then some (c.toNat - 0x30)
  else if 'a' ≤ c ∧ c ≤ 'f' then some (c.toNat - 0x57)
  else if 'A' ≤ c ∧ c ≤ 'F' then some (c.toNat - 0x37)
  else none

/-- The value of four hexadecimal digits. -/
def unit? (a b c d : Char) : Option Nat :=
  match hexValue? a, hexValue? b, hexValue? c, hexValue? d with
  | some a, some b, some c, some d => some (0x1000 * a + 0x100 * b + 0x10 * c + d)
  | _, _, _, _ => none

/-- The first half of a character beyond U+FFFF. -/
def isHighSurrogate (u : Nat) : Bool := 0xD800 ≤ u && u ≤ 0xDBFF

/-- The second half of a character beyond U+FFFF. -/
def isLowSurrogate (u : Nat) : Bool := 0xDC00 ≤ u && u ≤ 0xDFFF

/-- The character of two halves. -/
def pairedChar (high low : Nat) : Char :=
  Char.ofNat (0x10000 + 0x400 * (high - 0xD800) + (low - 0xDC00))

/-- The character of a short escape. -/
def shortEscape? (c : Char) : Option Char :=
  if c = '"' ∨ c = '\\' ∨ c = '/' then some c
  else if c = 'b' then some '\x08'
  else if c = 'f' then some '\x0c'
  else if c = 'n' then some '\n'
  else if c = 'r' then some '\r'
  else if c = 't' then some '\t'
  else none

/-- The fault of an escape that is followed by fewer than four characters: four bytes are looked at
if there are as many. -/
def shortUnitFault (left : List Char) : Fault :=
  if byteCount left < 4 then .misspelled .endInText 0
  else .misspelled .invalidEscape (byteCount left - 4)

/-- Put a character before the characters of a text. -/
def putChar (c : Char) :
    Except Fault (List Char × List Char) → Except Fault (List Char × List Char)
  | .ok (cs, left) => .ok (c :: cs, left)
  | .error fault => .error fault

/-- The characters up to the closing quote, and what is left after it. -/
def textChars : List Char → Except Fault (List Char × List Char)
  | [] => .error (.misspelled .endInText 0)
  | c :: rest =>
    if c = '"' then .ok ([], rest)
    else if c = '\\' then
      match rest with
      | [] => .error (.misspelled .endInText 0)
      | e :: rest =>
        if e = 'u' then
          match rest with
          | a :: b :: c :: d :: rest =>
            match unit? a b c d with
            | none => .error (.misspelled .invalidEscape (byteCount (a :: b :: c :: d :: rest) - 4))
            | some u =>
              if isLowSurrogate u then .error (.misspelled .loneSurrogate (byteCount rest))
              else if isHighSurrogate u then
                match rest with
                | [] => .error (.misspelled .endInText 0)
                | e :: rest =>
                  if e = '\\' then
                    match rest with
                    | [] => .error (.misspelled .endInText 0)
                    | e :: rest =>
                      if e = 'u' then
                        match rest with
                        | a :: b :: c :: d :: rest =>
                          match unit? a b c d with
                          | none =>
                            .error (.misspelled .invalidEscape
                              (byteCount (a :: b :: c :: d :: rest) - 4))
                          | some v =>
                            if isLowSurrogate v then putChar (pairedChar u v) (textChars rest)
                            else .error (.misspelled .loneSurrogate (byteCount rest))
                        | left => .error (shortUnitFault left)
                      else .error (.misspelled .unfinishedSurrogate (byteCount (e :: rest) - 1))
                  else .error (.misspelled .unfinishedSurrogate (byteCount (e :: rest) - 1))
              else putChar (Char.ofNat u) (textChars rest)
          | left => .error (shortUnitFault left)
        else
          match shortEscape? e with
          | some c => putChar c (textChars rest)
          | none => .error (.misspelled .invalidEscape (byteCount (e :: rest) - 1))
    else if c.toNat < 0x20 then .error (.misspelled .controlCharacter (byteCount rest))
    else putChar c (textChars rest)

/-- What is left after the closing quote. -/
def skipTextChars : List Char → Except Fault (List Char)
  | [] => .error (.misspelled .endInText 0)
  | c :: rest =>
    if c = '"' then .ok rest
    else if c = '\\' then
      match rest with
      | [] => .error (.misspelled .endInText 0)
      | e :: rest =>
        if e = 'u' then
          match rest with
          | a :: b :: c :: d :: rest =>
            match unit? a b c d with
            | none => .error (.misspelled .invalidEscape (byteCount (a :: b :: c :: d :: rest) - 4))
            | some _ => skipTextChars rest
          | left => .error (shortUnitFault left)
        else
          match shortEscape? e with
          | some _ => skipTextChars rest
          | none => .error (.misspelled .invalidEscape (byteCount (e :: rest) - 1))
    else if c.toNat < 0x20 then .error (.misspelled .controlCharacter (byteCount (c :: rest)))
    else skipTextChars rest

/-- Read a text after its opening quote. -/
def quoted : Reader String := fun left => do
  let (cs, left) ← textChars left
  pure (String.ofList cs, left)

/-- Skip a text after its opening quote. -/
def skipQuoted : Reader Unit := fun left => do
  let left ← skipTextChars left
  pure ((), left)

end Reader
end Json
end RestBindings
