import RestBindings.Json.Reader.Basic
import RestBindings.Json.Value

/-! # How values are laid out

The compact and the pretty text of a value differ only in the blanks that stand before elements,
members and closing brackets, and after colons.  A **layout** says which these are, and
`Layout.chars` writes a value in it.  Both texts of a value are layouts of it (`toList_compact`,
`toList_prettyAt`), so what holds of every layout is shown once and holds of both.
-/
namespace RestBindings
namespace Json

/-- Blanks that JSON allows between its parts. -/
def Spaces (cs : List Char) : Prop := ∀ c ∈ cs, Reader.isSpace c = true

theorem spaces_nil : Spaces [] := nofun

/-- The blanks of a layout. -/
structure Layout where
  /-- What stands before an element, a member or a closing bracket, inside `depth` brackets. -/
  gap : (depth : Nat) → List Char
  /-- What stands after the colon of a member. -/
  afterColon : List Char
  /-- Only blanks stand before elements. -/
  spaces_gap : ∀ depth, Spaces (gap depth)
  /-- Only blanks stand after a colon. -/
  spaces_afterColon : Spaces afterColon

namespace Layout

/-- The layout without blanks. -/
def compact : Layout where
  gap _ := []
  afterColon := []
  spaces_gap _ := spaces_nil
  spaces_afterColon := spaces_nil

@[simp] theorem gap_compact (depth : Nat) : compact.gap depth = [] := rfl

@[simp] theorem afterColon_compact : compact.afterColon = [] := rfl

theorem spaces_newLine (depth : Nat) : Spaces (Value.newLine depth).toList := by
  intro c hc
  rw [Value.newLine, String.toList_append] at hc
  rcases List.mem_append.mp hc with hc | hc
  · obtain rfl := List.mem_singleton.mp hc
    rfl
  · rw [String.toList_ofList] at hc
    obtain rfl := List.eq_of_mem_replicate hc
    rfl

/-- The layout with every element and member on a line of its own. -/
def pretty : Layout where
  gap depth := (Value.newLine depth).toList
  afterColon := [' ']
  spaces_gap := spaces_newLine
  spaces_afterColon := by
    intro c hc
    obtain rfl := List.mem_singleton.mp hc
    rfl

@[simp] theorem gap_pretty (depth : Nat) : pretty.gap depth = (Value.newLine depth).toList := rfl

@[simp] theorem afterColon_pretty : pretty.afterColon = [' '] := rfl

mutual

/-- The characters of a value, inside `depth` brackets. -/
def chars (layout : Layout) (depth : Nat) : Value → List Char
  | .null => ['n', 'u', 'l', 'l']
  | .bool true => ['t', 'r', 'u', 'e']
  | .bool false => ['f', 'a', 'l', 's', 'e']
  | .number n => n.text.toList
  | .text s => Text.quoteChars s.toList
  | .list [] => ['[', ']']
  | .list (v :: rest) =>
    '[' :: (layout.gap (depth + 1) ++ (layout.chars (depth + 1) v
      ++ (layout.elements (depth + 1) rest ++ (layout.gap depth ++ [']']))))
  | .object [] => ['\x7b', '\x7d']
  | .object ((name, v) :: rest) =>
    '\x7b' :: (layout.gap (depth + 1) ++ (Text.quoteChars name.toList
      ++ (':' :: (layout.afterColon ++ layout.chars (depth + 1) v)
      ++ (layout.members (depth + 1) rest ++ (layout.gap depth ++ ['\x7d'])))))

/-- The elements after the first. -/
def elements (layout : Layout) (depth : Nat) : List Value → List Char
  | [] => []
  | v :: rest =>
    ',' :: (layout.gap depth ++ (layout.chars depth v ++ layout.elements depth rest))

/-- The members after the first. -/
def members (layout : Layout) (depth : Nat) : List (String × Value) → List Char
  | [] => []
  | (name, v) :: rest =>
    ',' :: (layout.gap depth ++ (Text.quoteChars name.toList
      ++ (':' :: (layout.afterColon ++ layout.chars depth v) ++ layout.members depth rest)))

end

variable (layout : Layout) (depth : Nat)

/-- The text of a member from its colon on. -/
def afterName (v : Value) : List Char := ':' :: (layout.afterColon ++ layout.chars depth v)

/-- What stands between the brackets of a list. -/
def insideList : List Value → List Char
  | [] => []
  | v :: rest =>
    layout.gap (depth + 1) ++ (layout.chars (depth + 1) v
      ++ (layout.elements (depth + 1) rest ++ layout.gap depth))

/-- What stands between the brackets of an object. -/
def insideObject : List (String × Value) → List Char
  | [] => []
  | (name, v) :: rest =>
    layout.gap (depth + 1) ++ (Text.quoteChars name.toList ++ (layout.afterName (depth + 1) v
      ++ (layout.members (depth + 1) rest ++ layout.gap depth)))

theorem chars_list (values : List Value) :
    layout.chars depth (.list values) = '[' :: (layout.insideList depth values ++ [']']) := by
  cases values <;> simp [chars, insideList]

theorem chars_object (list : List (String × Value)) :
    layout.chars depth (.object list) =
      '\x7b' :: (layout.insideObject depth list ++ ['\x7d']) := by
  cases list <;> simp [chars, insideObject, afterName]

theorem length_le_length_elements (values : List Value) :
    values.length ≤ (layout.elements depth values).length := by
  induction values with
  | nil => exact Nat.le_refl 0
  | cons v rest ih =>
    simp only [elements, List.length_cons, List.length_append]
    omega

theorem length_le_length_members (members : List (String × Value)) :
    members.length ≤ (layout.members depth members).length := by
  induction members with
  | nil => exact Nat.le_refl 0
  | cons member rest ih =>
    obtain ⟨name, v⟩ := member
    simp only [Layout.members, List.length_cons, List.length_append]
    omega

/-! ## The two texts of a value -/

mutual

theorem toList_prettyAt (depth : Nat) :
    (v : Value) → (v.prettyAt depth).toList = pretty.chars depth v
  | .null => by rw [Value.prettyAt, chars]; rfl
  | .bool true => by rw [Value.prettyAt, chars]; rfl
  | .bool false => by rw [Value.prettyAt, chars]; rfl
  | .number n => by rw [Value.prettyAt, chars]
  | .text s => by rw [Value.prettyAt, chars, Text.toList_quote]
  | .list [] => by simp [Value.prettyAt, chars]
  | .list (v :: rest) => by
    simp [Value.prettyAt, chars, toList_prettyAt (depth + 1) v,
      toList_prettyElements (depth + 1) rest]
  | .object [] => by simp [Value.prettyAt, chars]
  | .object ((name, v) :: rest) => by
    simp [Value.prettyAt, chars, toList_prettyAt (depth + 1) v,
      toList_prettyMembers (depth + 1) rest]

theorem toList_prettyElements (depth : Nat) :
    (rest : List Value) → (Value.prettyElements depth rest).toList = pretty.elements depth rest
  | [] => rfl
  | v :: rest => by
    simp [Value.prettyElements, elements, toList_prettyAt depth v, toList_prettyElements depth rest]

theorem toList_prettyMembers (depth : Nat) :
    (rest : List (String × Value)) →
      (Value.prettyMembers depth rest).toList = pretty.members depth rest
  | [] => rfl
  | (name, v) :: rest => by
    simp [Value.prettyMembers, members, toList_prettyAt depth v, toList_prettyMembers depth rest]

end

mutual

theorem toList_compact (depth : Nat) :
    (v : Value) → v.compact.toList = compact.chars depth v
  | .null => rfl
  | .bool true => rfl
  | .bool false => rfl
  | .number n => rfl
  | .text s => by rw [Value.compact, chars, Text.toList_quote]
  | .list [] => rfl
  | .list (v :: rest) => by
    have helements := toList_compactElements (depth + 1) (v :: rest) (List.cons_ne_nil v rest)
    rw [elements, gap_compact, List.nil_append, List.cons.injEq] at helements
    simp [Value.compact, chars, helements.2]
  | .object [] => by simp [Value.compact, Value.compactMembers, chars]
  | .object ((name, v) :: rest) => by
    have hmembers := toList_compactMembers (depth + 1) ((name, v) :: rest) (List.cons_ne_nil _ rest)
    rw [members, gap_compact, List.nil_append, List.cons.injEq] at hmembers
    simp [Value.compact, chars, hmembers.2]

/-- With a comma before the first element too, all of them are written alike. -/
theorem toList_compactElements (depth : Nat) :
    (values : List Value) → values ≠ [] →
      ',' :: (Value.compactElements values).toList = compact.elements depth values
  | [], h => absurd rfl h
  | [v], _ => by simp [Value.compactElements, elements, toList_compact depth v]
  | v :: w :: rest, _ => by
    have hrest := toList_compactElements depth (w :: rest) (List.cons_ne_nil w rest)
    rw [elements, ← hrest]
    simp [Value.compactElements, toList_compact depth v]

theorem toList_compactMembers (depth : Nat) :
    (list : List (String × Value)) → list ≠ [] →
      ',' :: (Value.compactMembers list).toList = compact.members depth list
  | [], h => absurd rfl h
  | [(name, v)], _ => by simp [Value.compactMembers, members, toList_compact depth v]
  | (name, v) :: w :: rest, _ => by
    have hrest := toList_compactMembers depth (w :: rest) (List.cons_ne_nil w rest)
    rw [members, ← hrest]
    simp [Value.compactMembers, toList_compact depth v]

end

/-- The pretty text of a value. -/
theorem toList_pretty (v : Value) : v.pretty.toList = pretty.chars 0 v := toList_prettyAt 0 v

end Layout
end Json
end RestBindings
