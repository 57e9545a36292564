/-! # TOML tables

A TOML document is a table: entries with names, in the order of their first mention.  A table
remembers where it came from, because that says what may still be added to it.  A table is defined
once: a second header for it is refused, and so is a header for a table that dotted names made or
that was written inline; a name is given once.
-/
namespace RestBindings
namespace Toml

/-- How a table came to be. -/
inductive Origin where
  /-- A header names it on the way to another table. -/
  | passed
  /-- It has a header of its own. -/
  | header
  /-- A dotted name leads through it. -/
  | dotted
  /-- It is written inline. -/
  | closed
deriving DecidableEq, Repr

/-- What a name stands for. -/
inductive Item where
  | text (s : String)
  /-- A number, a truth value, or a date or time. -/
  | scalar (word : String)
  | list (items : List Item)
  | table (origin : Origin) (entries : List (String × Item))
  /-- Tables that share a header, in order. -/
  | tables (all : List (List (String × Item)))

/-- The entries of a table. -/
abbrev Entries := List (String × Item)

namespace Entries

/-- Put an item in the place of the one that has its name. -/
def replace (entries : Entries) (name : String) (item : Item) : Entries :=
  entries.map fun entry => if entry.1 == name then (name, item) else entry

/-- Change the table that headers lead to.  Tables that are missing on the way are made, and of
tables that share a header the last one is meant. -/
def change (f : Entries → Option Entries) : (path : List String) → Entries → Option Entries
  | [], entries => f entries
  | name :: path, entries =>
    match entries.lookup name with
    | none => (change f path []).map fun inner => entries ++ [(name, .table .passed inner)]
    | some (.table origin inner) =>
      if origin = .closed then none
      else (change f path inner).map fun inner => entries.replace name (.table origin inner)
    | some (.tables all) =>
      (change f path (all.getLast?.getD [])).map fun inner =>
        entries.replace name (.tables (all.dropLast ++ [inner]))
    | some _ => none

/-- Define a table by its header. -/
def define (name : String) (entries : Entries) : Option Entries :=
  match entries.lookup name with
  | none => some (entries ++ [(name, .table .header [])])
  | some (.table .passed inner) => some (entries.replace name (.table .header inner))
  | some _ => none

/-- Add one more table to those that share a header. -/
def extend (name : String) (entries : Entries) : Option Entries :=
  match entries.lookup name with
  | none => some (entries ++ [(name, .tables [[]])])
  | some (.tables all) => some (entries.replace name (.tables (all ++ [[]])))
  | some _ => none

/-- Give an item a dotted name that is not given yet. -/
def add (item : Item) : (path : List String) → Entries → Option Entries
  | [], _ => none
  | [name], entries =>
    if (entries.lookup name).isSome then none else some (entries ++ [(name, item)])
  | name :: path, entries =>
    match entries.lookup name with
    | none => (add item path []).map fun inner => entries ++ [(name, .table .dotted inner)]
    | some (.table origin inner) =>
      if origin = .passed ∨ origin = .dotted then
        (add item path inner).map fun inner => entries.replace name (.table .dotted inner)
      else none
    | some _ => none

end Entries

/-- A line of a document that says something. -/
inductive Statement where
  /-- The header of a table. -/
  | header (path : List String)
  /-- The header of one more table among those that share it. -/
  | element (path : List String)
  | entry (path : List String) (item : Item)

/-- A document so far, with the header that entries stand under. -/
structure Draft where
  entries : Entries := []
  header : List String := []

namespace Draft

/-- Apply a change to the table that a header names last, and stand under the header. -/
def under (draft : Draft) (path : List String) (f : String → Entries → Option Entries) :
    Option Draft :=
  match path.getLast? with
  | none => none
  | some name =>
    (draft.entries.change (f name) path.dropLast).map fun entries => { entries, header := path }

/-- The document with one more statement. -/
def say (draft : Draft) : Statement → Option Draft
  | .header path => draft.under path Entries.define
  | .element path => draft.under path Entries.extend
  | .entry path item =>
    (draft.entries.change (Entries.add item path) draft.header).map fun entries =>
      { draft with entries }

end Draft

/-- The entries of the document that statements make. -/
def entriesOf (statements : List Statement) : Option Entries :=
  (statements.foldlM Draft.say {}).map Draft.entries

@[simp] theorem entriesOf_nil : entriesOf [] = some [] := rfl

end Toml
end RestBindings
