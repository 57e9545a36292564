import RestBindings.Client.Template
import RestBindings.Generation.Options
import RestBindings.Json.Fault
import RestBindings.Report.Output

/-! # Listing templates

The list of templates puts their names in a column as wide as the widest name in bytes, with the
file extension, the description and a mark on the default.
-/
namespace RestBindings
namespace Report

open Client (Template TemplateSet)

/-- The default template. -/
def isDefault (t : Template) : Bool := t.name == Generation.defaultTemplate

/-- Fill a text up with spaces. -/
def padded (width : Nat) (s : String) : String :=
  s ++ String.ofList (List.replicate (width - s.length) ' ')

/-- The width of the column of names. -/
def nameWidth (templates : List Template) : Nat :=
  templates.foldl (fun width t => max width (Json.byteCount t.name.toList)) 0

/-- The line of a template. -/
def templateLine (width : Nat) (t : Template) : String :=
  padded width t.name ++ "  ." ++ padded 3 t.extension ++ " " ++ t.description
    ++ (if isDefault t then " (default)" else "")

/-- What to show of templates. -/
def templatesOutputs (templates : TemplateSet) : List Output :=
  .heading "Templates"
    :: templates.toList.map fun t => .item (templateLine (nameWidth templates.toList) t)

end Report
end RestBindings
