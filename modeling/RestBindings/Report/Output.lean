/-! # Output of reports

A report says what to show and not how: headings, items, messages.  On a terminal each has its form
and its stream.  Generated source and the lists that were asked for go to standard output;
everything else about a run goes to standard error, so that it never ends up in a file the source is
piped to.
-/
namespace RestBindings
namespace Report

/-- One thing to show. -/
inductive Output where
  /-- The heading of what follows. -/
  | heading (name : String)
  /-- A value with its name. -/
  | keyValue (key value : String)
  /-- An item of a list. -/
  | item (label : String)
  | warning (message : String)
  | error (message : String)
  /-- What was done. -/
  | status (message : String)
  /-- A line between parts. -/
  | divider (label : String)
  /-- A line of text. -/
  | text (line : String)
  /-- Text exactly as it is. -/
  | source (whole : String)
  /-- An empty line. -/
  | newline
deriving DecidableEq, Repr

namespace Output

/-- What is shown on standard output. -/
def stdout : Output → String
  | heading name => name ++ ":\n"
  | keyValue key value => "  " ++ key ++ ": " ++ value ++ "\n"
  | item label => "  - " ++ label ++ "\n"
  | divider label => "── " ++ label ++ " ──\n"
  | text line => line ++ "\n"
  | source whole => whole
  | newline => "\n"
  | warning _ | error _ | status _ => ""

/-- What is shown on standard error. -/
def stderr : Output → String
  | warning message => "warning: " ++ message ++ "\n"
  | error message => "error: " ++ message ++ "\n"
  | status message => message ++ "\n"
  | _ => ""

/-- What a list of outputs shows on standard output. -/
def stdoutOf (outputs : List Output) : String := String.join (outputs.map stdout)

/-- What a list of outputs shows on standard error. -/
def stderrOf (outputs : List Output) : String := String.join (outputs.map stderr)

/-- Each output is shown on one stream only. -/
theorem stdout_eq_empty_or_stderr_eq_empty (o : Output) : o.stdout = "" ∨ o.stderr = "" := by
  cases o <;> simp [stdout, stderr]

end Output
end Report
end RestBindings
