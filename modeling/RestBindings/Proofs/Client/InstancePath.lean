import RestBindings.Proofs.Client.Calls
import RestBindings.Proofs.Description
import RestBindings.Proofs.Text.Quoted

/-! # Values for the placeholders of a path

The path of a prototype method has a placeholder for every parameter that identifies an instance of
its model, and the helper that sends the request takes their values from its `path`.  The two come
from different places: the placeholders from the constructor of the model, the values from the
parameters of the method, which describing puts after the constructor of the class that owns the
method.  So a placeholder has a value exactly when the parameter of its name that counts is one for
the path (`placeholder_has_value_iff`).  A method that its own model owns starts with the model's
constructor, which then decides alone.  A method of another owner may leave a placeholder without a
value: its function sends a request to a URL that has `undefined` in it
(`block_leaves_placeholder`).
-/
namespace RestBindings
namespace Client
namespace Fetch

open Code (Lambda)

/-! ## The values that a request has -/

/-- A parameter that identifies an instance is forwarded in the path when it is one for the path. -/
theorem partOf_eq_path_iff {m : Model} {method : Method} {q : Param}
    (hproto : method.isStatic = false) (hid : q.arg ∈ (pathParams m).map Param.arg) :
    partOf m method q = .path ↔ inPath q = true := by
  rw [partOf, inPath]
  cases hsource : q.source with
  | none => simp [hproto, hid]
  | some source => cases source <;> simp [Part.ofSource]

/-- The values of a placeholder, by the parameter of its name that counts. -/
theorem mem_pathEntries_iff {m : Model} {method : Method} {arg value : String}
    (hproto : method.isStatic = false) (hid : arg ∈ (pathParams m).map Param.arg) (route : Route) :
    (arg, value) ∈ (requestOf m method route).entries .path ↔
      ∃ q, callerParam? method.accepts arg = some q ∧ inPath q = true ∧ value = variableOf q := by
  rw [entries_requestOf m method route (by decide), List.mem_map]
  constructor
  · rintro ⟨q, hq, heq⟩
    obtain ⟨rfl, rfl⟩ := Prod.mk.inj heq
    obtain ⟨hcaller, hpart⟩ := mem_carried_iff.mp hq
    exact ⟨q, mem_callerParams_and_arg_iff.mp ⟨hcaller, rfl⟩,
      (partOf_eq_path_iff hproto hid).mp hpart, rfl⟩
  · rintro ⟨q, hq, hin, rfl⟩
    obtain ⟨hcaller, rfl⟩ := mem_callerParams_and_arg_iff.mpr hq
    exact ⟨q, mem_carried_iff.mpr ⟨hcaller, (partOf_eq_path_iff hproto hid).mpr hin⟩, rfl⟩

/-! ## Parameters of the constructor -/

theorem isServerSide_of_inPath {p : Param} (h : inPath p = true) : p.isServerSide = false := by
  rw [inPath] at h
  cases hsource : p.source with
  | none => simp [Param.isServerSide, hsource]
  | some source =>
    rw [hsource, Option.getD_some, beq_iff_eq] at h
    simp [Param.isServerSide, hsource, h, Source.isServerSide]

theorem callerParam?_append_of_eq_some {params : List Param} {arg : String} {q : Param}
    (h : callerParam? params arg = some q) (own : List Param) :
    callerParam? (params ++ own) arg = some q := by
  rw [callerParam?] at h ⊢
  rw [List.find?_append, h, Option.some_or]

/-- Where no two parameters share a name, each that the caller supplies counts. -/
theorem callerParam?_of_nodup {params : List Param} (hnodup : (params.map Param.arg).Nodup)
    {p : Param} (hp : p ∈ params) (hin : inPath p = true) :
    callerParam? params p.arg = some p := by
  obtain ⟨q, hq⟩ := exists_callerParam? hp (isServerSide_of_inPath hin)
  obtain ⟨hmem, -, hname⟩ := callerParam?_eq_some hq
  rw [hq, List.inj_on_of_nodup_map hnodup hmem hp hname]

/-! ## Placeholders -/

/-- **Which placeholders have a value.**  The function of a described prototype method sends a request
whose URL has a placeholder for every parameter that identifies an instance.  The `path` of the
request has a value for it, the variable of a declared parameter of that name, exactly when the
parameter of the name that counts is one for the path.  For a method that its own model owns, the
constructor decides, and where its names differ every placeholder has a value. -/
theorem placeholder_has_value_iff {classes : List RestClass} {models : Models} {m : Model}
    {method : Method} {f : Lambda} (hmodels : (describe classes).models = .ok models)
    (hm : m ∈ models.toList) (hmethod : method ∈ m.methods) (hproto : method.isStatic = false)
    (hf : function m method = .ok f) :
    (∃ formals, f.params = String.intercalate ", " formals ∧
      List.Forall₂ Declares (callerParams method) formals) ∧
    ∃ route, method.firstRoute? = some route ∧ Sends f (requestOf m method route) ∧
      (requestOf m method route).url =
        joinPath (m.httpPath :: (pathParams m).map (":" ++ ·.arg) ++ [route.path]) ∧
      ∀ p ∈ pathParams m,
        ((∃ value, (p.arg, value) ∈ (requestOf m method route).entries .path) ↔
          ∃ q, callerParam? method.accepts p.arg = some q ∧ inPath q = true) ∧
        (∀ value, (p.arg, value) ∈ (requestOf m method route).entries .path →
          ∃ q ∈ callerParams method, q.arg = p.arg ∧ value = variableOf q) ∧
        (method.restClass = m.name →
          ((∃ value, (p.arg, value) ∈ (requestOf m method route).entries .path) ↔
            ∃ q, callerParam? (m.ctor.getD []) p.arg = some q ∧ inPath q = true)) ∧
        (method.restClass = m.name → ((m.ctor.getD []).map Param.arg).Nodup →
          (p.arg, variableOf p) ∈ (requestOf m method route).entries .path) := by
  obtain ⟨hparams, route, hroute, hsends⟩ := exists_written_of_function hf
  refine ⟨hparams, route, hroute, hsends, ?_, fun p hp => ?_⟩
  · rw [requestOf, actionPath, hproto]
    rfl
  have hid : p.arg ∈ (pathParams m).map Param.arg := List.mem_map_of_mem hp
  obtain ⟨hctor, hin⟩ := List.mem_filter.mp hp
  have hvalue : (∃ value, (p.arg, value) ∈ (requestOf m method route).entries .path) ↔
      ∃ q, callerParam? method.accepts p.arg = some q ∧ inPath q = true := by
    simp only [mem_pathEntries_iff hproto hid]
    constructor
    · rintro ⟨_, q, hq, hin, -⟩
      exact ⟨q, hq, hin⟩
    · rintro ⟨q, hq, hin⟩
      exact ⟨_, q, hq, hin, rfl⟩
  -- the constructor has a parameter of this name that counts, and its parameters come first
  have hown (howner : method.restClass = m.name) :
      ∃ q, callerParam? (m.ctor.getD []) p.arg = some q ∧
        callerParam? method.accepts p.arg = some q := by
    obtain ⟨own, haccepts⟩ := accepts_of_restClass_eq hmodels hm hmethod hproto howner
    obtain ⟨q, hq⟩ := exists_callerParam? hctor (isServerSide_of_inPath hin)
    exact ⟨q, hq, haccepts ▸ callerParam?_append_of_eq_some hq own⟩
  refine ⟨hvalue, ?_, ?_, ?_⟩
  · intro value h
    obtain ⟨q, hq, -, rfl⟩ := (mem_pathEntries_iff hproto hid route).mp h
    obtain ⟨hcaller, hname⟩ := mem_callerParams_and_arg_iff.mpr hq
    exact ⟨q, hcaller, hname, rfl⟩
  · intro howner
    obtain ⟨q, hq, haccepts⟩ := hown howner
    rw [hvalue, hq, haccepts]
  · intro howner hnodup
    obtain ⟨q, hq, haccepts⟩ := hown howner
    rw [callerParam?_of_nodup hnodup hctor hin] at hq
    obtain rfl := Option.some.inj hq
    exact (mem_pathEntries_iff hproto hid route).mpr ⟨p, haccepts, hin, rfl⟩

/-- A prototype method, with an owner. -/
def cardMethod (name owner : String) : Method where
  name := name
  isStatic := false
  accepts := []
  returns := []
  routes := [⟨"POST", "/" ++ name⟩]
  restClass := owner
  aliases := []
  description := none

/-- Cards, which are renewed by themselves and blocked by their account. -/
def cardClass : RestClass where
  name := "Card"
  ctor := some [{ arg := "number" }]
  httpPath := "/cards"
  methods := [cardMethod "renew" "Card", cardMethod "block" "Account"]

/-- Accounts and cards. -/
def cardClasses : List RestClass := [
  { name := "Account"
    ctor := some [{ arg := "account" }]
    httpPath := "/accounts"
    methods := [] },
  cardClass]

/-- The model of cards. -/
def card : Model := cardClass.described cardClasses

theorem card_mem : ∃ models, (describe cardClasses).models = .ok models ∧ card ∈ models.toList := by
  have hnodup : (modelNames cardClasses).Nodup := by decide
  obtain ⟨models, htoList, heq⟩ := describe_of_nodup hnodup
  refine ⟨models, by rw [heq], ?_⟩
  rw [htoList]
  exact List.mem_map_of_mem (List.mem_filter.mpr ⟨by simp [cardClasses], rfl⟩)

/-- The method of cards of a name as it is described, with the parameters of a constructor. -/
def cardMethodWith (name owner : String) (ctor : List Param) : Method :=
  (cardMethod name owner).withCtor (some ctor)

theorem renew_has_number :
    ∃ f r, function card (cardMethodWith "renew" "Card" [{ arg := "number" }]) = .ok f ∧
      f.body = ["return request(\"POST\", \"/cards/:number/renew\", "
        ++ "\x7b path: \x7b \"number\": number \x7d \x7d);"] ∧
      (∀ line ∈ f.body, Request.read? line = some r) ∧
      ∀ p ∈ pathParams card, (p.arg, variableOf p) ∈ r.entries .path := by
  obtain ⟨models, hmodels, hcard⟩ := card_mem
  obtain ⟨f, hf⟩ : ∃ f, function card (cardMethodWith "renew" "Card" [{ arg := "number" }]) = .ok f :=
    ⟨_, rfl⟩
  have hmethod : cardMethodWith "renew" "Card" [{ arg := "number" }] ∈ card.methods :=
    List.mem_cons_self
  obtain ⟨-, route, hroute, hsends, -, hvalues⟩ :=
    placeholder_has_value_iff hmodels hcard hmethod rfl hf
  obtain rfl := Option.some.inj hroute
  have htext : (requestOf card (cardMethodWith "renew" "Card" [{ arg := "number" }])
      ⟨"POST", "/renew"⟩).text = "return request(\"POST\", \"/cards/:number/renew\", "
        ++ "\x7b path: \x7b \"number\": number \x7d \x7d);" := by decide
  refine ⟨f, _, hf, htext ▸ hsends.body_eq, hsends.read_of_mem, fun p hp => ?_⟩
  exact (hvalues p hp).2.2.2 rfl (by decide)

/-- A card that its account blocks: the URL has a placeholder for the number of the card, and the
request has no value for it. -/
theorem block_leaves_placeholder :
    ∃ models m method f r, (describe cardClasses).models = .ok models ∧ m ∈ models.toList ∧
      method ∈ m.methods ∧ method.isStatic = false ∧ function m method = .ok f ∧
      f.body = ["return request(\"POST\", \"/cards/:number/block\", "
        ++ "\x7b query: \x7b \"account\": account \x7d \x7d);"] ∧
      (∀ line ∈ f.body, Request.read? line = some r) ∧
      ∃ p ∈ pathParams m, ∀ value, (p.arg, value) ∉ r.entries .path := by
  obtain ⟨models, hmodels, hcard⟩ := card_mem
  obtain ⟨f, hf⟩ : ∃ f, function card
      (cardMethodWith "block" "Account" [{ arg := "account" }]) = .ok f := ⟨_, rfl⟩
  obtain ⟨-, route, hroute, hsends⟩ := exists_written_of_function hf
  obtain rfl := Option.some.inj hroute
  have htext : (requestOf card (cardMethodWith "block" "Account" [{ arg := "account" }])
      ⟨"POST", "/block"⟩).text = "return request(\"POST\", \"/cards/:number/block\", "
        ++ "\x7b query: \x7b \"account\": account \x7d \x7d);" := by decide
  have hnone : (requestOf card (cardMethodWith "block" "Account" [{ arg := "account" }])
      ⟨"POST", "/block"⟩).entries .path = [] := by decide
  refine ⟨models, card, cardMethodWith "block" "Account" [{ arg := "account" }], f,
    requestOf card (cardMethodWith "block" "Account" [{ arg := "account" }]) ⟨"POST", "/block"⟩,
    hmodels, hcard, List.mem_cons_of_mem _ List.mem_cons_self, rfl, hf, htext ▸ hsends.body_eq,
    hsends.read_of_mem, { arg := "number" }, List.mem_cons_self, fun value => ?_⟩
  rw [hnone]
  exact List.not_mem_nil

end Fetch
end Client
end RestBindings
