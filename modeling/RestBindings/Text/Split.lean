/-! # Splitting a text at separators

`splitOn sep cs` is the list of pieces of `cs` between the characters that satisfy `sep`, empty
pieces included; there is always at least one piece.
-/
namespace RestBindings
namespace Text

/-- The pieces between the characters that satisfy `sep`. -/
def splitOn (sep : Char → Bool) : List Char → List (List Char)
  | [] => [[]]
  | c :: rest =>
    if sep c then
      [] :: splitOn sep rest
    else
      match splitOn sep rest with
      | [] => [[c]]
      | piece :: pieces => (c :: piece) :: pieces

variable (sep : Char → Bool)

@[simp] theorem splitOn_nil : splitOn sep [] = [[]] := rfl

@[simp] theorem splitOn_ne_nil (cs : List Char) : splitOn sep cs ≠ [] := by
  cases cs with
  | nil => simp
  | cons c rest =>
    rw [splitOn]
    split
    · simp
    · split <;> simp

/-- Separators apart, splitting loses nothing. -/
theorem flatten_splitOn (cs : List Char) :
    (splitOn sep cs).flatten = cs.filter fun c => !sep c := by
  induction cs with
  | nil => rfl
  | cons c rest ih =>
    rw [splitOn]
    split
    next h => simp [ih, h]
    next h =>
      split
      next hs => exact absurd hs (splitOn_ne_nil sep rest)
      next piece pieces hs => simp [hs] at ih; simp [h, ih]

end Text
end RestBindings
