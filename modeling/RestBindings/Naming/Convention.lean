import RestBindings.Naming.Identifier

/-! # Naming conventions

A **convention** says how the names of models and of parameters become names in generated code, and
which words the code must not use as names.  A name that comes out as a reserved word is escaped.
`Convention.script` is the convention of JavaScript and TypeScript: bindings keep the model's name
with its first character raised, parameters become identifiers, and a reserved word gets `_` before
it.
-/
namespace RestBindings
namespace Naming

/-- How names become names in generated code. -/
structure Convention where
  /-- The name a model is bound to. -/
  ofModel : String → String
  /-- The name of a parameter. -/
  ofParam : String → String
  /-- The words that cannot be used as names. -/
  reserved : List String
  /-- The form a reserved word takes as a name. -/
  escape : String → String

namespace Convention

variable (convention : Convention)

/-- A word that cannot be used as a name. -/
def isReserved (name : String) : Bool := convention.reserved.contains name

/-- A name, escaped if it is reserved. -/
def safe (name : String) : String :=
  if convention.isReserved name then convention.escape name else name

/-- The name of the binding of a model. -/
def binding (name : String) : String := convention.safe (convention.ofModel name)

/-- The name of the variable of a parameter. -/
def param (name : String) : String := convention.safe (convention.ofParam name)

theorem safe_of_not_reserved {name : String} (h : convention.isReserved name = false) :
    convention.safe name = name := by
  simp [safe, h]

/-- Reserved words of JavaScript, of its strict mode and of TypeScript, and the names the generated
request helper uses itself. -/
def scriptReserved : List String :=
  ["break", "case", "catch", "class", "const", "continue", "debugger", "default", "delete", "do",
   "else", "enum", "export", "extends", "false", "finally", "for", "function", "if", "import",
   "in", "instanceof", "let", "new", "null", "return", "super", "switch", "this", "throw", "true",
   "try", "typeof", "var", "void", "while", "with", "yield",
   "arguments", "await", "eval", "implements", "interface", "package", "private", "protected",
   "public", "static",
   "request", "urlBase"]

/-- The convention of JavaScript and TypeScript. -/
def script : Convention where
  ofModel := capitalize
  ofParam := toIdentifier
  reserved := scriptReserved
  escape name := "_" ++ name

end Convention
end Naming
end RestBindings
