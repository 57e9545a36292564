import RestBindings.Client.Keys
import RestBindings.Client.Template
import RestBindings.Proofs.Fresh
import RestBindings.Proofs.Sequence

/-! # Identifiers and keys that are taken

Models take their identifiers and methods their action names in walks over a table of what is taken
(`identifiersFrom_eq_takeAll`, `ownActions_eq_takeAll`).  So models have identifiers exactly when
these differ, and otherwise the error names the first two of one identifier (`identifiers_outcome`).
A client has keys exactly when the action names of its methods are fresh after the reserved keys: the
aliases never stop a walk.
-/
namespace RestBindings
namespace Client

/-! ## Identifiers of models -/

/-- A model with its identifier. -/
def identified (toIdentifier : String → String) (m : Model) : String × Model :=
  (toIdentifier m.name, m)

theorem identifiersFrom_eq_takeAll (toIdentifier : String → String) (taken : List (String × Model))
    (models : List Model) :
    identifiersFrom toIdentifier taken models =
      takeAll (identified toIdentifier)
        (fun m first => .identifierConflict (toIdentifier m.name) first.name m.name)
        taken models := by
  induction models generalizing taken with
  | nil => rfl
  | cons m rest ih =>
    rw [identifiersFrom, takeAll, identified]
    cases taken.lookup (toIdentifier m.name) with
    | some first => rfl
    | none => exact ih _

/-- Models have identifiers exactly when these differ. -/
theorem identifiers_eq_ok_iff {context : Context} {toIdentifier : String → String}
    {ids : List (String × Model)} :
    context.identifiers toIdentifier = .ok ids ↔
      (context.models.toList.map fun m => toIdentifier m.name).Nodup ∧
        ids = context.models.toList.map (identified toIdentifier) := by
  rw [Context.identifiers, identifiersFrom_eq_takeAll, takeAll_eq_ok_iff]
  exact and_congr fresh_of_nothing_taken Iff.rfl

/-- Where identifiers differ, each is looked up as the model that has it. -/
theorem lookup_identified_iff {toIdentifier : String → String} {models : List Model}
    (hnodup : (models.map fun m => toIdentifier m.name).Nodup) {identifier : String} {m : Model} :
    (models.map (identified toIdentifier)).lookup identifier = some m ↔
      m ∈ models ∧ toIdentifier m.name = identifier := by
  have hkeys : ((models.map (identified toIdentifier)).map Prod.fst).Nodup := by
    rwa [List.map_map]
  constructor
  · intro h
    obtain ⟨n, hn, heq⟩ := List.mem_map.mp (mem_of_lookup_eq_some h)
    obtain ⟨hname, rfl⟩ := Prod.mk.inj heq
    exact ⟨hn, hname⟩
  · rintro ⟨hm, rfl⟩
    exact lookup_eq_some_of_mem hkeys (List.mem_map_of_mem (f := identified toIdentifier) hm)

/-- **Identifiers of models, and who stands in the way.**  Models have identifiers exactly when these
differ, and then each model has its own, in order.  Otherwise there is a first model whose identifier
is taken by a model before it.  The models before it have distinct identifiers, so one of them took
it, and the error tells that one, the model and the identifier they share. -/
theorem identifiers_outcome (context : Context) (toIdentifier : String → String) :
    ((∃ ids, context.identifiers toIdentifier = .ok ids) ↔
      (context.models.toList.map fun m => toIdentifier m.name).Nodup) ∧
    (∀ ids, context.identifiers toIdentifier = .ok ids →
      ids = context.models.toList.map fun m => (toIdentifier m.name, m)) ∧
    ∀ e, context.identifiers toIdentifier = .error e ↔ ∃ before first between second after,
      context.models.toList = before ++ first :: between ++ second :: after ∧
      ((before ++ first :: between).map fun m => toIdentifier m.name).Nodup ∧
      toIdentifier first.name = toIdentifier second.name ∧
      e = .identifierConflict (toIdentifier second.name) first.name second.name := by
  refine ⟨?_, fun ids h => (identifiers_eq_ok_iff.mp h).2, fun e => ?_⟩
  · constructor
    · rintro ⟨ids, h⟩
      exact (identifiers_eq_ok_iff.mp h).1
    · intro h
      exact ⟨_, identifiers_eq_ok_iff.mpr ⟨h, rfl⟩⟩
  · rw [Context.identifiers, identifiersFrom_eq_takeAll, takeAll_eq_error_iff]
    constructor
    · rintro ⟨earlier, second, after, first, hmodels, hfresh, hfirst, rfl⟩
      have hnodup : (earlier.map fun m => toIdentifier m.name).Nodup := hfresh.nodup
      obtain ⟨hmem, hshared⟩ := (lookup_identified_iff hnodup).mp hfirst
      obtain ⟨before, between, rfl⟩ := List.append_of_mem hmem
      exact ⟨before, first, between, second, after, hmodels, hnodup, hshared, rfl⟩
    · rintro ⟨before, first, between, second, after, hmodels, hnodup, hshared, rfl⟩
      refine ⟨before ++ first :: between, second, after, first, hmodels,
        fresh_of_nothing_taken.mpr hnodup, ?_, rfl⟩
      exact (lookup_identified_iff hnodup).mpr
        ⟨List.mem_append_right before List.mem_cons_self, hshared⟩

/-! ## Keys of a client -/

/-- A method's action name with its owner. -/
def owned (model : String) (method : Method) : String × String :=
  (method.action, ownerName model method.action)

theorem ownActions_eq_takeAll (model : String) (owners : Owners) (methods : List Method) :
    ownActions model owners methods =
      takeAll (owned model)
        (fun method first =>
          .identifierConflict method.action first (ownerName model method.action))
        owners methods := by
  induction methods generalizing owners with
  | nil => rfl
  | cons m rest ih =>
    rw [ownActions, takeAll, owned]
    cases owners.lookup m.action with
    | some first => rfl
    | none => exact ih _

/-- Keys are given to every method, in order. -/
theorem map_method_methodKeys (model : String) (owners : Owners) (methods : List Method) :
    (methodKeys model owners methods).1.map MethodKeys.method = methods := by
  induction methods generalizing owners with
  | nil => rfl
  | cons m rest ih => simp only [methodKeys, List.map_cons, ih]

/-- The keys of a client when its action names are free. -/
def keyTable (m : Model) (reserved : List String) : KeyTable :=
  let owners := reserved.map (fun key => (key, ownerName m.name key)) ++ m.methods.map (owned m.name)
  { keys := (methodKeys m.name owners m.methods).1
    dropped := (methodKeys m.name owners m.methods).2 }

theorem map_method_keyTable (m : Model) (reserved : List String) :
    (keyTable m reserved).keys.map MethodKeys.method = m.methods :=
  map_method_methodKeys _ _ _

theorem keys_reserved (model : String) (reserved : List String) :
    (reserved.map fun key => (key, ownerName model key)).map Prod.fst = reserved := by
  rw [List.map_map]
  exact List.map_id reserved

/-- **A client has keys** exactly when the action names of its methods are fresh after the reserved
keys. -/
theorem clientKeys_eq_ok_iff {m : Model} {reserved : List String} {table : KeyTable} :
    clientKeys m reserved = .ok table ↔
      Fresh reserved (m.methods.map Method.action) ∧ table = keyTable m reserved := by
  rw [clientKeys, bind_eq_ok_iff]
  simp only [ownActions_eq_takeAll, takeAll_eq_ok_iff, keys_reserved, pure, Except.pure,
    Except.ok.injEq]
  constructor
  · rintro ⟨owners, ⟨hfresh, rfl⟩, rfl⟩
    exact ⟨hfresh, rfl⟩
  · rintro ⟨hfresh, rfl⟩
    exact ⟨_, ⟨hfresh, rfl⟩, rfl⟩

end Client
end RestBindings
