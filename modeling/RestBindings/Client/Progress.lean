import RestBindings.Client.Keys
import RestBindings.Journal

/-! # The journal of a rendering

A template that renders model by model tells of each model as it comes to it, and then of the
aliases of the model that it drops.  It stops after the first model that it cannot render.
-/
namespace RestBindings
namespace Client

open Journal (Entry quotedField)

/-- What is told of an alias that was dropped. -/
def DroppedAlias.entry (model : String) (dropped : DroppedAlias) : Entry where
  level := .warn
  message := "Skipping alias that names another client key"
  fields := [quotedField "model" model, ("alias", dropped.name), ("taken_by", dropped.owner)]

/-- What is told of a model that is rendered. -/
def modelEntry (message binding : String) (m : Model) : Entry where
  level := .debug
  message := message
  fields := [quotedField "model" m.name, ("binding", binding)]

/-- What is told of models that are rendered in order. -/
def renderingEntries (message : String) (keys : Model → Except RenderError KeyTable)
    (isRendered : String → Model → Bool) : List (String × Model) → List Entry
  | [] => []
  | (binding, m) :: rest =>
    let later := if isRendered binding m then renderingEntries message keys isRendered rest else []
    match keys m with
    | .ok table => modelEntry message binding m :: table.dropped.map (·.entry m.name) ++ later
    | .error _ => [modelEntry message binding m]

end Client
end RestBindings
