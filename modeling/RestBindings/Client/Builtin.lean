import RestBindings.Client.Angular
import RestBindings.Client.Fetch

/-! # The built-in templates

The templates every generator has: AngularJS services, which is the default, and TypeScript clients.
-/
namespace RestBindings
namespace Client

/-- The built-in templates, the default one first. -/
def builtinTemplates : TemplateSet :=
  (TemplateSet.mk []).register Angular.template |>.register Fetch.template

@[simp] theorem names_builtinTemplates : builtinTemplates.names = ["angular", "fetch"] := by
  decide

end Client
end RestBindings
