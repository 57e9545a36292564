import RestBindings.Client.Template

/-! # Keys of a client

A client reaches every method of its model under the method's action name, and under those of its
aliases that are free.  Some keys are reserved: the template sets them itself.  Action names must be
distinct and not reserved.  An alias is dropped when it is reserved, is an action name of any
method, or is an alias that came before; the dropped ones are told with the owner of the key.
-/
namespace RestBindings
namespace Client

/-- The keys of one method. -/
structure MethodKeys where
  method : Method
  /-- The key every client has. -/
  action : String
  /-- The aliases that are free, in order. -/
  aliases : List String
deriving DecidableEq, Repr

/-- An alias that is another key. -/
structure DroppedAlias where
  name : String
  /-- What the key stands for, as `Model.key`. -/
  owner : String
deriving DecidableEq, Repr

/-- Who owns a key, as `Model.key`. -/
abbrev Owners := List (String × String)

/-- What messages call a key of a model. -/
def ownerName (model : String) (key : String) : String := model ++ "." ++ key

/-- Own the action names of methods, each of which must be free. -/
def ownActions (model : String) (owners : Owners) : List Method → Except RenderError Owners
  | [] => .ok owners
  | m :: rest =>
    match owners.lookup m.action with
    | some first => .error (.identifierConflict m.action first (ownerName model m.action))
    | none => ownActions model (owners ++ [(m.action, ownerName model m.action)]) rest

/-- Keep the aliases that are free, for `owner`. -/
def keepAliases (owner : String) (owners : Owners) :
    List String → List String × List DroppedAlias × Owners
  | [] => ([], [], owners)
  | name :: rest =>
    match owners.lookup name with
    | some taken =>
      let (kept, dropped, owners) := keepAliases owner owners rest
      (kept, ⟨name, taken⟩ :: dropped, owners)
    | none =>
      let (kept, dropped, owners) := keepAliases owner (owners ++ [(name, owner)]) rest
      (name :: kept, dropped, owners)

/-- The keys of methods whose action names are owned, with the aliases dropped on the way. -/
def methodKeys (model : String) (owners : Owners) :
    List Method → List MethodKeys × List DroppedAlias
  | [] => ([], [])
  | m :: rest =>
    let (kept, dropped, owners) := keepAliases (ownerName model m.action) owners m.aliases
    let (keys, later) := methodKeys model owners rest
    (⟨m, m.action, kept⟩ :: keys, dropped ++ later)

/-- The keys of a client, and the aliases that were dropped. -/
structure KeyTable where
  keys : List MethodKeys
  dropped : List DroppedAlias
deriving DecidableEq, Repr

/-- Give every method of a model its keys. -/
def clientKeys (m : Model) (reserved : List String) : Except RenderError KeyTable := do
  let owners ← ownActions m.name (reserved.map fun key => (key, ownerName m.name key)) m.methods
  let (keys, dropped) := methodKeys m.name owners m.methods
  pure { keys, dropped }

end Client
end RestBindings
