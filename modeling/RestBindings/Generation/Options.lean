import RestBindings.Client.Path

/-! # Options of a generation

What a user may choose: the template, the name of the module and the URL of the API.  A choice that
is not made, or is the empty text, falls back to the default.  Options are layered with `or`, where
a choice that is made wins even if it is empty, and `resolve` supplies the defaults last.
-/
namespace RestBindings
namespace Generation

/-- What a user chose. -/
structure Options where
  template : Option String := none
  moduleName : Option String := none
  apiUrl : Option String := none
deriving DecidableEq, Repr

/-- Options with every default supplied. -/
structure ResolvedOptions where
  template : String
  moduleName : String
  /-- The URL of the API without slashes at its end. -/
  urlBase : String
deriving DecidableEq, Repr

/-- The template of a user who chose none. -/
def defaultTemplate : String := "angular"

/-- The name of the module of a user who chose none. -/
def defaultModuleName : String := "siras"

/-- The URL of the API of a user who chose none. -/
def defaultApiUrl : String := "/"

/-- A choice, or the default if it is not made or empty. -/
def choose (choice : Option String) (default : String) : String :=
  (choice.filter (!·.isEmpty)).getD default

namespace Options

/-- The choices of `o`, and where it makes none those of `fallback`. -/
def or (o fallback : Options) : Options where
  template := o.template <|> fallback.template
  moduleName := o.moduleName <|> fallback.moduleName
  apiUrl := o.apiUrl <|> fallback.apiUrl

/-- Supply the defaults. -/
def resolve (o : Options) : ResolvedOptions where
  template := choose o.template defaultTemplate
  moduleName := choose o.moduleName defaultModuleName
  urlBase := Client.stripSlashes (choose o.apiUrl defaultApiUrl)

end Options
end Generation
end RestBindings
