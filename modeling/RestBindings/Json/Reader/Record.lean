import RestBindings.Json.Reader.Value

/-! # Reading records

A **record** is read from an object, by the names of its members, or from a list that holds its
fields in their order.  It starts as the record of all defaults, and every field that is read is
stored in it.  In an object a field may come once, an unknown member is skipped, and a field that
must be there is missed at the end; in a list the fields come in order, and only those with a
default of their own may be left out at the end.
-/
namespace RestBindings
namespace Json

/-- Whether a field may be left out. -/
inductive Presence where
  /-- The field must be there. -/
  | required
  /-- The field may be left out of an object, but not of a list. -/
  | nullable
  /-- The field has a default. -/
  | defaulted
deriving DecidableEq, Repr

/-- One field of a record of type `σ`. -/
structure Field (σ : Type) where
  /-- The name of the member that holds the field. -/
  name : String
  /-- Whether the field may be left out. -/
  presence : Presence
  /-- Read the field's value into the record. -/
  store : σ → Reader σ

/-- How a record of type `σ` is read. -/
structure Record (σ : Type) where
  /-- What messages call the record. -/
  label : String
  /-- The record in which every field has its default. -/
  blank : σ
  /-- The fields, in the order a list holds them. -/
  fields : List (Field σ)

namespace Reader

/-- Refuse a value that is not of the kind asked for; a scalar is read to its end first. -/
def mismatch (expected : String) : Reader α := do
  let found : Found ← match ← peek with
    | some 'n' => do take; word ['u', 'l', 'l']; pure .null
    | some 't' => do take; word ['r', 'u', 'e']; pure (.bool true)
    | some 'f' => do take; word ['a', 'l', 's', 'e']; pure (.bool false)
    | some '-' => do take; .number <$> number true
    | some '"' => do take; .text <$> quoted
    | some '[' => pure .list
    | some '\x7b' => pure .object
    | some c => if c.isDigit then .number <$> number false else stop .expectedValue 1
    | none => stop .expectedValue 1
  reject (.unexpected found expected)

/-- Skip blanks before a value that has to come. -/
def start : Reader Char := do
  match ← peek with
  | some c => pure c
  | none => stop .endInValue 0

/-- Read a text, which messages call `expected`. -/
def textAs (expected : String) : Reader String := do
  match ← start with
  | '"' => take; quoted
  | _ => mismatch expected

/-- Read a text. -/
def text : Reader String := textAs "a string"

/-- Read a truth value. -/
def bool : Reader Bool := do
  match ← start with
  | 't' => take; word ['r', 'u', 'e']; pure true
  | 'f' => take; word ['a', 'l', 's', 'e']; pure false
  | _ => mismatch "a boolean"

/-- Read the word `null`. -/
def unit : Reader Unit := do
  match ← start with
  | 'n' => take; word ['u', 'l', 'l']
  | _ => mismatch "unit"

/-- Read a value that may be `null`. -/
def optional (reader : Reader α) : Reader (Option α) := do
  match ← peek with
  | some 'n' => take; word ['u', 'l', 'l']; pure none
  | _ => some <$> reader

/-- Read a list. -/
def list (element : Reader α) : Reader (List α) := do
  match ← start with
  | '[' => take; elements element
  | _ => mismatch "a sequence"

/-- Take the closing bracket after the last field of a record in a list. -/
def endOfList : Reader Unit := do
  match ← peek with
  | some ']' => take
  | some ',' =>
    take
    match ← peek with
    | some ']' => stop .trailingComma 1
    | _ => stop .trailingCharacters 1
  | some _ => stop .trailingCharacters 1
  | none => stop .endInList 0

/-- Read one of some words, each with its meaning: as a text, or as an object with the word as the
only name and `null` as its value. -/
def wordOf (known : List (String × α)) : Reader α := do
  let meaning (word : String) : Reader α :=
    match known.lookup word with
    | some a => pure a
    | none => reject (.unknownWord word (known.map Prod.fst))
  match ← start with
  | '"' => do meaning (← textAs "variant identifier")
  | '\x7b' =>
    take
    let a ← meaning (← textAs "variant identifier")
    colon
    unit
    match ← peek with
    | some '\x7d' => take; pure a
    | some _ => stop .expectedValue 0
    | none => stop .endInObject 0
  | _ => stop .expectedValue 1

end Reader

namespace Record

variable (record : Record σ)

/-- What messages call a list that is too short for the record. -/
def lengthLabel : String :=
  record.label ++ " with " ++ toString record.fields.length
    ++ (if record.fields.length = 1 then " element" else " elements")

/-- Read the fields of a record in a list, from the field with the given place on. -/
def storeInOrder : (place : Nat) → List (Field σ) → σ → Reader σ
  | _, [], state => pure state
  | place, field :: rest, state => do
    if ← Reader.moreElements (place == 0) then
      let state ← field.store state
      storeInOrder (place + 1) rest state
    else
      match field.presence with
      | .defaulted => storeInOrder (place + 1) rest state
      | _ => Reader.reject (.tooShort place record.lengthLabel)

/-- Read the value of the member `name` of a record that has seen the members `seen`. -/
def storeMember (state : σ × List String) (name : String) : Reader (σ × List String) := do
  match record.fields.find? (·.name == name) with
  | none =>
    Reader.colon
    Reader.skipValue
    pure state
  | some field =>
    if state.2.contains name then
      Reader.reject (.duplicate name)
    else
      Reader.colon
      let updated ← field.store state.1
      pure (updated, name :: state.2)

/-- The first field that must be there and is not. -/
def missing? (seen : List String) : Option String :=
  (record.fields.find? fun f => f.presence == .required && !seen.contains f.name).map (·.name)

/-- Read a record. -/
def read : Reader σ := do
  match ← Reader.start with
  | '[' =>
    Reader.take
    let state ← record.storeInOrder 0 record.fields record.blank
    Reader.endOfList
    pure state
  | '\x7b' =>
    Reader.take
    let (state, seen) ← Reader.members record.storeMember (record.blank, [])
    match record.missing? seen with
    | some name => Reader.reject (.missing name)
    | none =>
      let _ ← Reader.peek
      Reader.take
      pure state
  | _ => Reader.mismatch record.label

end Record
end Json
end RestBindings
