import RestBindings.Json.Reader.Skip

/-! # Reading lists, objects and values

`elements` and `members` read what is inside brackets with a reader for each element or member
value.  `value depth` reads any JSON value with at most `depth` brackets open at once; the bracket
that is one too many stops it.
-/
namespace RestBindings
namespace Json
namespace Reader

/-- Is there another element?  A comma stands before every element but the first. -/
def moreElements (isFirst : Bool) : Reader Bool := do
  match ← peek with
  | none => stop .endInList 0
  | some ']' => pure false
  | some c =>
    if isFirst then pure true
    else if c = ',' then do
      take
      match ← peek with
      | none => stop .endInValue 0
      | some ']' => stop .trailingComma 1
      | some _ => pure true
    else stop .expectedListCommaOrEnd 1

/-- Is there another member?  A comma stands before every member but the first. -/
def moreMembers (isFirst : Bool) : Reader Bool := do
  match ← peek with
  | none => stop .endInObject 0
  | some '\x7d' => pure false
  | some c =>
    let isNext ← if isFirst then pure true else if c = ',' then do take; pure true else pure false
    if isNext then
      match ← peek with
      | none => stop .endInValue 0
      | some '"' => pure true
      | some '\x7d' => stop .trailingComma 1
      | some _ => stop .nameNotText 1
    else stop .expectedObjectCommaOrEnd 1

/-- The name of a member, up to and with its opening value's colon. -/
def memberName : Reader String := do
  take
  quoted

/-- The elements up to the closing bracket. -/
def elementsFrom (element : Reader α) : (fuel : Nat) → (isFirst : Bool) → Reader (List α)
  | 0, _ => stop .endInList 0
  | fuel + 1, isFirst => do
    if ← moreElements isFirst then
      let first ← element
      let rest ← elementsFrom element fuel false
      pure (first :: rest)
    else
      pure []

/-- The elements of a list after its opening bracket, and the closing bracket.  There are no more
elements than characters. -/
def elements (element : Reader α) : Reader (List α) := do
  let all ← fun left => elementsFrom element (left.length + 1) true left
  let _ ← peek
  take
  pure all

/-- Fold the members up to the closing bracket: `member` gets the name and reads on from the
colon. -/
def membersFrom (member : σ → String → Reader σ) :
    (fuel : Nat) → (isFirst : Bool) → σ → Reader σ
  | 0, _, _ => stop .endInObject 0
  | fuel + 1, isFirst, state => do
    if ← moreMembers isFirst then
      let name ← memberName
      let state ← member state name
      membersFrom member fuel false state
    else
      pure state

/-- Fold the members of an object after its opening bracket; the closing bracket is left. -/
def members (member : σ → String → Reader σ) (start : σ) : Reader σ := fun left =>
  membersFrom member (left.length + 1) true start left

/-- A member whose value is read by `inner`, after the members before it. -/
def memberOf (inner : Reader Value) (before : List (String × Value)) (name : String) :
    Reader (List (String × Value)) := do
  colon
  let v ← inner
  pure (before ++ [(name, v)])

/-- A value whose elements and member values are read by `inner`; without it no bracket may be
opened. -/
def valueAround (inner? : Option (Reader Value)) : Reader Value := do
  match ← peek with
  | none => stop .endInValue 0
  | some 'n' => take; word ['u', 'l', 'l']; pure .null
  | some 't' => take; word ['r', 'u', 'e']; pure (.bool true)
  | some 'f' => take; word ['a', 'l', 's', 'e']; pure (.bool false)
  | some '-' => take; .number <$> number true
  | some '"' => take; .text <$> quoted
  | some '[' =>
    match inner? with
    | none => stop .tooDeep 1
    | some inner => take; .list <$> elements inner
  | some '\x7b' =>
    match inner? with
    | none => stop .tooDeep 1
    | some inner =>
      take
      let all ← members (memberOf inner) []
      let _ ← peek
      take
      pure (.object all)
  | some c =>
    if c.isDigit then .number <$> number false else stop .expectedValue 1

/-- Any value, with at most `depth` brackets open at once. -/
def value : (depth : Nat) → Reader Value
  | 0 => valueAround none
  | depth + 1 => valueAround (some (value depth))

end Reader
end Json
end RestBindings
