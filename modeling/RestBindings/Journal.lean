import RestBindings.Text.Printable

/-! # The journal

What a run tells about itself while it works, for those who want to follow it.  Every entry has a
level, and a reader chooses how far down the levels to read.  An entry is one line: its level, its
message, and its fields by name.
-/
namespace RestBindings
namespace Journal

/-- How much an entry matters. -/
inductive Level where
  | error
  | warn
  | info
  | debug
deriving DecidableEq, Repr

namespace Level

/-- The word for a level. -/
def name : Level → String
  | error => "ERROR"
  | warn => "WARN"
  | info => "INFO"
  | debug => "DEBUG"

/-- The place of a level, the one that matters most first. -/
def rank : Level → Nat
  | error => 0
  | warn => 1
  | info => 2
  | debug => 3

end Level

/-- One thing that a run tells. -/
structure Entry where
  level : Level
  message : String
  /-- Names and values in the form in which they are shown. -/
  fields : List (String × String) := []
deriving DecidableEq, Repr

/-- A field whose value is shown in quotes. -/
def quotedField (name value : String) : String × String := (name, Text.shown value)

/-- A field that counts. -/
def countField (name : String) (count : Nat) : String × String := (name, toString count)

/-- The line of an entry. -/
def Entry.line (entry : Entry) : String :=
  entry.level.name ++ " " ++ entry.message
    ++ String.join (entry.fields.map fun (name, value) => " " ++ name ++ "=" ++ value) ++ "\n"

/-- The lines of the entries that matter at least as much as a level. -/
def read (level : Level) (entries : List Entry) : String :=
  String.join ((entries.filter fun e => e.level.rank ≤ level.rank).map Entry.line)

@[simp] theorem read_nil (level : Level) : read level [] = "" := rfl

/-- A reader of everything reads every entry. -/
theorem read_debug (entries : List Entry) :
    read .debug entries = String.join (entries.map Entry.line) := by
  have h : ∀ e ∈ entries, decide (e.level.rank ≤ Level.debug.rank) = true := by
    intro e _
    cases h : e.level <;> simp [Level.rank]
  simp [read, List.filter_eq_self.2 h]

end Journal
end RestBindings
