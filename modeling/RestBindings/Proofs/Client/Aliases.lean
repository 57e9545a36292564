import RestBindings.Proofs.Client.Identifiers

/-! # Which aliases a client keeps

A client reaches a method under its action name and under those of its aliases that are free when the
walk over the methods comes to them.  What is free then depends on all that was kept before; but that
amounts to a rule that does not speak of the walk.  An alias is kept unless it is reserved or the
action name of any method, and it is kept for the first method that declares it (`mem_aliases_iff`).
So reserving more keys only ever drops aliases and never hands one to another method.

All keys of a client, the reserved ones, the action names and the aliases, are distinct
(`nodup_names`).  When there are keys, which they are, and which method stands in the way otherwise is
put together at the end (`clientKeys_outcome`).
-/
namespace RestBindings
namespace Client

/-! ## The aliases of one method -/

theorem keepAliases_cons_of_taken {owners : Owners} {name : String}
    (h : name ∈ owners.map Prod.fst) (owner : String) (rest : List String) :
    (keepAliases owner owners (name :: rest)).1 = (keepAliases owner owners rest).1 ∧
      (keepAliases owner owners (name :: rest)).2.2 = (keepAliases owner owners rest).2.2 := by
  cases hlookup : owners.lookup name with
  | some taken => simp [keepAliases, hlookup]
  | none => exact absurd h (lookup_eq_none_iff_not_mem_keys.mp hlookup)

theorem keepAliases_cons_of_free {owners : Owners} {name : String}
    (h : name ∉ owners.map Prod.fst) (owner : String) (rest : List String) :
    (keepAliases owner owners (name :: rest)).1 =
        name :: (keepAliases owner (owners ++ [(name, owner)]) rest).1 ∧
      (keepAliases owner owners (name :: rest)).2.2 =
        (keepAliases owner (owners ++ [(name, owner)]) rest).2.2 := by
  simp [keepAliases, lookup_eq_none_iff_not_mem_keys.mpr h]

/-- **The aliases kept for one method**: those that are free are taken, each once. -/
theorem keepAliases_spec (owner : String) (owners : Owners) (names : List String) :
    (keepAliases owner owners names).2.2.map Prod.fst =
        owners.map Prod.fst ++ (keepAliases owner owners names).1 ∧
      Fresh (owners.map Prod.fst) (keepAliases owner owners names).1 ∧
      ∀ name, name ∈ (keepAliases owner owners names).1 ↔
        name ∈ names ∧ name ∉ owners.map Prod.fst := by
  induction names generalizing owners with
  | nil => exact ⟨by simp [keepAliases], fresh_nil _, by simp [keepAliases]⟩
  | cons first rest ih =>
    by_cases htaken : first ∈ owners.map Prod.fst
    · obtain ⟨hkept, howners⟩ := keepAliases_cons_of_taken htaken owner rest
      obtain ⟨ihowners, ihfresh, ihmem⟩ := ih owners
      rw [hkept, howners]
      refine ⟨ihowners, ihfresh, fun name => ?_⟩
      rw [ihmem, List.mem_cons]
      constructor
      · rintro ⟨hname, hfree⟩
        exact ⟨.inr hname, hfree⟩
      · rintro ⟨rfl | hname, hfree⟩
        · exact absurd htaken hfree
        · exact ⟨hname, hfree⟩
    · obtain ⟨hkept, howners⟩ := keepAliases_cons_of_free htaken owner rest
      obtain ⟨ihowners, ihfresh, ihmem⟩ := ih (owners ++ [(first, owner)])
      have hkeys : (owners ++ [(first, owner)]).map Prod.fst = owners.map Prod.fst ++ [first] := by
        simp
      rw [hkeys] at ihowners ihfresh ihmem
      rw [hkept, howners]
      refine ⟨by simpa using ihowners, fresh_cons_iff.mpr ⟨htaken, ihfresh⟩, fun name => ?_⟩
      rw [List.mem_cons, ihmem, List.mem_cons, List.mem_append, List.mem_singleton, not_or]
      by_cases hname : name = first
      · simp [hname, htaken]
      · simp [hname]

/-! ## The aliases of all methods -/

/-- The first method that declares an alias. -/
def declarer? (methods : List Method) (name : String) : Option Method :=
  methods.find? fun m => m.aliases.contains name

theorem declarer?_cons_of_mem {m : Method} {name : String} (h : name ∈ m.aliases)
    (rest : List Method) : declarer? (m :: rest) name = some m :=
  List.find?_cons_of_pos (by simpa using h)

theorem declarer?_cons_of_not_mem {m : Method} {name : String} (h : name ∉ m.aliases)
    (rest : List Method) : declarer? (m :: rest) name = declarer? rest name :=
  List.find?_cons_of_neg (by simpa using h)

theorem declarer?_eq_some {methods : List Method} {name : String} {m : Method}
    (h : declarer? methods name = some m) : m ∈ methods ∧ name ∈ m.aliases :=
  ⟨List.mem_of_find?_eq_some h, by simpa using List.find?_some h⟩

theorem method_mem_of_mem_methodKeys {model : String} {owners : Owners} {methods : List Method}
    {k : MethodKeys} (hk : k ∈ (methodKeys model owners methods).1) : k.method ∈ methods := by
  rw [← map_method_methodKeys model owners methods]
  exact List.mem_map_of_mem hk

theorem action_of_mem_methodKeys {model : String} {owners : Owners} {methods : List Method}
    {k : MethodKeys} (hk : k ∈ (methodKeys model owners methods).1) :
    k.action = k.method.action := by
  induction methods generalizing owners with
  | nil => cases hk
  | cons m rest ih =>
    rcases List.mem_cons.mp hk with rfl | hk
    · rfl
    · exact ih hk

/-- The aliases kept for methods differ from each other and from the names taken before. -/
theorem fresh_aliases_methodKeys (model : String) (owners : Owners) (methods : List Method) :
    Fresh (owners.map Prod.fst) ((methodKeys model owners methods).1.flatMap MethodKeys.aliases) := by
  induction methods generalizing owners with
  | nil => exact fresh_nil _
  | cons m rest ih =>
    obtain ⟨howners, hfresh, -⟩ := keepAliases_spec (ownerName model m.action) owners m.aliases
    refine hfresh.append ?_
    rw [← howners]
    exact ih _

/-- **Which aliases a walk keeps**: those that are not taken before, each for its first declarer. -/
theorem mem_aliases_methodKeys_iff {model : String} {owners : Owners} {methods : List Method}
    (hnodup : methods.Nodup) {k : MethodKeys} (hk : k ∈ (methodKeys model owners methods).1)
    {name : String} :
    name ∈ k.aliases ↔ name ∉ owners.map Prod.fst ∧ declarer? methods name = some k.method := by
  induction methods generalizing owners with
  | nil => cases hk
  | cons m rest ih =>
    obtain ⟨hm, hnodup⟩ := List.nodup_cons.mp hnodup
    obtain ⟨howners, -, hkept⟩ := keepAliases_spec (ownerName model m.action) owners m.aliases
    rcases List.mem_cons.mp hk with rfl | hk
    · dsimp only
      rw [hkept, and_comm]
      refine and_congr_right fun _ => ?_
      by_cases hname : name ∈ m.aliases
      · simp [declarer?_cons_of_mem hname, hname]
      · rw [declarer?_cons_of_not_mem hname]
        exact iff_of_false hname fun h => hm (declarer?_eq_some h).1
    · have hrest : k.method ∈ rest := method_mem_of_mem_methodKeys hk
      rw [ih hnodup hk, howners, List.mem_append, not_or, hkept]
      by_cases hname : name ∈ m.aliases
      · -- by now the name is taken, and `m` is not among the methods that are left
        have hother : some m ≠ some k.method := fun h => hm (Option.some.inj h ▸ hrest)
        rw [declarer?_cons_of_mem hname]
        exact iff_of_false (fun h => h.1.2 ⟨hname, h.1.1⟩) fun h => hother h.2
      · rw [declarer?_cons_of_not_mem hname]
        simp [hname]

/-! ## The aliases in order -/

/-- The aliases of a method that are free after names that are taken and after the methods before it:
the first of each, in order. -/
def freeAliases (taken : List String) (before : List Method) (method : Method) : List String :=
  (method.aliases.filter fun name =>
    name ∉ taken ∧ name ∉ before.flatMap Method.aliases).eraseDups

/-- What is kept for one method is what is free, in order. -/
theorem keepAliases_eq (owner : String) (owners : Owners) (names : List String) :
    (keepAliases owner owners names).1 =
      (names.filter fun name => name ∉ owners.map Prod.fst).eraseDups := by
  induction names generalizing owners with
  | nil => rfl
  | cons first rest ih =>
    by_cases htaken : first ∈ owners.map Prod.fst
    · obtain ⟨hkept, -⟩ := keepAliases_cons_of_taken htaken owner rest
      rw [hkept, ih, List.filter_cons_of_neg (by simpa using htaken)]
    · obtain ⟨hkept, -⟩ := keepAliases_cons_of_free htaken owner rest
      rw [hkept, ih, List.filter_cons_of_pos (by simpa using htaken), List.eraseDups_cons,
        List.filter_filter]
      -- by then `first` is taken, and `eraseDups` drops it from the rest
      refine congrArg (first :: List.eraseDups ·)
        (List.filter_congr fun name _ => Bool.eq_iff_iff.mpr ?_)
      have hkeys : (owners ++ [(first, owner)]).map Prod.fst = owners.map Prod.fst ++ [first] := by
        simp
      simp only [hkeys, List.mem_append, List.mem_singleton, not_or, decide_eq_true_eq,
        Bool.and_eq_true, Bool.not_eq_true', beq_eq_false_iff_ne, ne_eq]
      exact and_comm

theorem methodKeys_cons (model : String) (owners : Owners) (m : Method) (rest : List Method) :
    (methodKeys model owners (m :: rest)).1 =
      { method := m, action := m.action,
        aliases := (keepAliases (ownerName model m.action) owners m.aliases).1 } ::
      (methodKeys model (keepAliases (ownerName model m.action) owners m.aliases).2.2 rest).1 := rfl

/-- **What a walk keeps**, method by method: the aliases that are free when the walk comes to the
method are those that are not taken before it and not declared by a method before. -/
theorem methodKeys_eq (model : String) (owners : Owners) (methods : List Method) :
    (methodKeys model owners methods).1 = methods.mapIdx fun i method =>
      { method, action := method.action,
        aliases := freeAliases (owners.map Prod.fst) (methods.take i) method } := by
  induction methods generalizing owners with
  | nil => rfl
  | cons m rest ih =>
    obtain ⟨howners, -, hkept⟩ := keepAliases_spec (ownerName model m.action) owners m.aliases
    have hhead : (keepAliases (ownerName model m.action) owners m.aliases).1 =
        freeAliases (owners.map Prod.fst) [] m := by
      rw [keepAliases_eq, freeAliases]
      simp
    have htail (before : List Method) (method : Method) :
        freeAliases ((keepAliases (ownerName model m.action) owners m.aliases).2.2.map Prod.fst)
          before method = freeAliases (owners.map Prod.fst) (m :: before) method := by
      refine congrArg List.eraseDups (List.filter_congr fun name _ => decide_eq_decide.mpr ?_)
      rw [howners, List.mem_append, hkept, List.flatMap_cons, List.mem_append]
      tauto
    rw [methodKeys_cons, List.mapIdx_cons, ih]
    simp only [hhead, htail, List.take_zero, List.take_succ_cons]

/-! ## The keys of a client -/

section KeyTable

variable {m : Model} {reserved : List String}

theorem map_action_keyTable (m : Model) (reserved : List String) :
    (keyTable m reserved).keys.map MethodKeys.action = m.methods.map Method.action := by
  rw [← map_method_keyTable m reserved, List.map_map]
  exact List.map_congr_left fun k hk => action_of_mem_methodKeys hk

theorem action_of_mem_keyTable {k : MethodKeys} (hk : k ∈ (keyTable m reserved).keys) :
    k.action = k.method.action := action_of_mem_methodKeys hk

theorem method_mem_of_mem_keyTable {k : MethodKeys} (hk : k ∈ (keyTable m reserved).keys) :
    k.method ∈ m.methods := method_mem_of_mem_methodKeys hk

/-- Whoever has a key, it is owned under its own name. -/
theorem owners_eq_map (model : String) (reserved : List String) (methods : List Method) :
    reserved.map (fun key => (key, ownerName model key)) ++ methods.map (owned model) =
      (reserved ++ methods.map Method.action).map fun key => (key, ownerName model key) := by
  rw [List.map_append, List.map_map]
  rfl

/-- The names that are taken before the walk over the aliases. -/
theorem keys_owners (m : Model) (reserved : List String) :
    (reserved.map (fun key => (key, ownerName m.name key)) ++ m.methods.map (owned m.name)).map
      Prod.fst = reserved ++ m.methods.map Method.action := by
  rw [owners_eq_map, List.map_map]
  exact List.map_id _

/-- **Which aliases a client keeps**: those that are neither reserved nor action names, each for the
first method that declares it. -/
theorem mem_aliases_iff (hfresh : Fresh reserved (m.methods.map Method.action)) {k : MethodKeys}
    (hk : k ∈ (keyTable m reserved).keys) {name : String} :
    name ∈ k.aliases ↔
      name ∉ reserved ++ m.methods.map Method.action ∧ declarer? m.methods name = some k.method := by
  rw [← keys_owners m reserved]
  exact mem_aliases_methodKeys_iff (List.Nodup.of_map Method.action hfresh.nodup) hk

/-- **The keys of a client are distinct**: those that are reserved, the action names and the
aliases. -/
theorem nodup_names (hreserved : reserved.Nodup)
    (hfresh : Fresh reserved (m.methods.map Method.action)) :
    (reserved ++ m.methods.map Method.action
      ++ (keyTable m reserved).keys.flatMap MethodKeys.aliases).Nodup := by
  have haliases := fresh_aliases_methodKeys m.name
    (reserved.map (fun key => (key, ownerName m.name key)) ++ m.methods.map (owned m.name)) m.methods
  rw [keys_owners] at haliases
  have hreserved : Fresh [] reserved := fresh_of_nothing_taken.mpr hreserved
  exact ((hreserved.append hfresh).append haliases).nodup

/-- The aliases never stop the walk. -/
theorem clientKeys_eq_error_iff {e : RenderError} :
    clientKeys m reserved = .error e ↔
      ownActions m.name (reserved.map fun key => (key, ownerName m.name key)) m.methods =
        .error e := by
  rw [clientKeys]
  cases ownActions m.name (reserved.map fun key => (key, ownerName m.name key)) m.methods <;>
    simp [bind, Except.bind, pure, Except.pure]

/-- **The keys of a client.**  A client has keys exactly when the action names of its methods are
distinct and none is reserved.  Every method then has an entry, in order, with its action name and
those of its aliases that are neither reserved nor an action name of any method, each for the first
method that declares it and once.  Otherwise there is a first method whose action name is reserved or
is that of a method before it, and the error tells the name, the key that had it and the method. -/
theorem clientKeys_outcome (m : Model) (reserved : List String) :
    ((∃ table, clientKeys m reserved = .ok table) ↔
      (m.methods.map Method.action).Nodup ∧ ∀ method ∈ m.methods, method.action ∉ reserved) ∧
    (∀ table, clientKeys m reserved = .ok table →
      table.keys = m.methods.mapIdx fun i method =>
        { method, action := method.action,
          aliases := freeAliases (reserved ++ m.methods.map Method.action) (m.methods.take i)
            method }) ∧
    ∀ e, clientKeys m reserved = .error e ↔ ∃ before method after owner,
      m.methods = before ++ method :: after ∧
      ((before.map Method.action).Nodup ∧ ∀ earlier ∈ before, earlier.action ∉ reserved) ∧
      (owner ∈ reserved ∨ ∃ earlier ∈ before, earlier.action = owner) ∧ owner = method.action ∧
      e = .identifierConflict method.action (ownerName m.name owner)
        (ownerName m.name method.action) := by
  refine ⟨?_, fun table h => ?_, fun e => ?_⟩
  · simp only [clientKeys_eq_ok_iff, fresh_map_iff, exists_and_left, exists_eq, and_true]
  · obtain ⟨-, rfl⟩ := clientKeys_eq_ok_iff.mp h
    rw [← keys_owners m reserved]
    exact methodKeys_eq m.name _ m.methods
  · simp only [clientKeys_eq_error_iff, ownActions_eq_takeAll, takeAll_eq_error_iff, keys_reserved,
      owners_eq_map, lookup_map_iff, List.mem_append, List.mem_map]
    constructor
    · rintro ⟨before, method, after, _, hmethods, hfresh, ⟨howner, rfl⟩, rfl⟩
      exact ⟨before, method, after, method.action, hmethods, fresh_map_iff.mp hfresh, howner, rfl, rfl⟩
    · rintro ⟨before, method, after, _, hmethods, hfresh, howner, rfl, rfl⟩
      exact ⟨before, method, after, _, hmethods, fresh_map_iff.mpr hfresh, ⟨howner, rfl⟩, rfl⟩

end KeyTable

end Client
end RestBindings
