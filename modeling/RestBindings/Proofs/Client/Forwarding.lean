import RestBindings.Proofs.Client.Identity
import RestBindings.Proofs.Client.Path

/-! # Parameters that a path asks for

The path of a method asks for a parameter with a segment that is a colon and the name of the
parameter.  Such a segment is written by the path of the class, by the constructor or by the route.
The parameters of a request are put into its parts without a look at the path: the registry says
which part carries a parameter, and where it says nothing, a parameter that identifies an instance is
one for the path.

So a parameter that the path asks for is forwarded in the path, and only there, unless the registry
declares another source for it, which wins (`asked_for_is_forwarded`).  A method may therefore have a
placeholder whose value it sends elsewhere (`peek_sends_slot_in_query`).
-/
namespace RestBindings
namespace Client
namespace Fetch

/-- A path asks for a parameter: it has the name of the parameter after a colon as a segment. -/
def AsksFor (segments : List (List Char)) (p : Param) : Prop := ':' :: p.arg.toList ∈ segments

instance (segments : List (List Char)) (p : Param) : Decidable (AsksFor segments p) :=
  inferInstanceAs (Decidable (_ ∈ segments))

/-- Where the registry declares none, a parameter that identifies an instance is one for the path. -/
theorem partOf_of_identifying {m : Model} {method : Method} {p : Param} (h : p.source = none)
    (hid : p.arg ∈ identifying m method) : partOf m method p = .path :=
  if_pos ⟨h, mem_identifying_iff.mp hid⟩

/-- **A parameter that the path asks for is sent in the path**, where the registry does not say
otherwise.  The path of a method has the segments of its class, its constructor and its route, in
order.  A declared parameter that one of them asks for stands in the `path` of the request under its
name, and in no other part, with two exceptions: if the registry declares another source, it is
forwarded in the part of that source only; and a parameter for which the registry declares none may
be one that the constructor does not have, so that only the class, the route or a part of a
constructor's name with a slash asks for it. -/
theorem asked_for_is_forwarded {m : Model} {method : Method} {f : Code.Lambda}
    (h : function m method = .ok f) :
    (∃ formals, f.params = String.intercalate ", " formals ∧
      List.Forall₂ Declares (callerParams method) formals) ∧
    ∃ route, method.firstRoute? = some route ∧ Sends f (requestOf m method route) ∧
      (requestOf m method route).url = actionPath m method route ∧
      segments (actionPath m method route) =
        segments m.httpPath ++ ctorSegments m method ++ segments route.path ∧
      ∀ p ∈ callerParams method, AsksFor (segments (actionPath m method route)) p →
        ((p.arg, variableOf p) ∈ (requestOf m method route).entries .path ∧
          ForwardedIn (requestOf m method route) .path p) ∨
        (∃ source, p.source = some source ∧ source ≠ .path ∧
          ForwardedIn (requestOf m method route) (Part.ofSource (some source)) p) ∨
        (p.source = none ∧ p.arg ∉ identifying m method ∧
          (AsksFor (segments m.httpPath) p ∨ AsksFor (segments route.path) p ∨
            ∃ q ∈ pathParams m, '/' ∈ q.arg.toList)) := by
  obtain ⟨hparams, route, hroute, hsends⟩ := exists_written_of_function h
  obtain ⟨_, _, -, hargs, rfl⟩ := function_eq_ok_iff.mp h
  obtain ⟨hvariables, rfl⟩ := arguments_eq_ok_iff.mp hargs
  refine ⟨hparams, route, hroute, hsends, rfl, segments_actionPath m method route,
    fun p hp hasks => ?_⟩
  cases hsource : p.source with
  | some source =>
    have heq : partOf m method p = Part.ofSource (some source) := partOf_of_source hsource
    by_cases hdeclared : source = .path
    · subst hdeclared
      exact .inl (forwardedIn_path hvariables hp heq route)
    · exact .inr (.inl ⟨source, rfl, hdeclared, heq ▸ forwardedIn_partOf hvariables hp route⟩)
  | none =>
    by_cases hid : p.arg ∈ identifying m method
    · exact .inl (forwardedIn_path hvariables hp (partOf_of_identifying hsource hid) route)
    · refine .inr (.inr ⟨rfl, hid, ?_⟩)
      -- the constructor does not have the parameter, so it asks for it only with a part of a name
      rw [AsksFor, segments_actionPath, List.mem_append, List.mem_append] at hasks
      rcases hasks with (hclass | hctor) | hroute
      · exact .inl hclass
      · refine .inr (.inr ?_)
        by_contra hslash
        have hslash : ∀ q ∈ pathParams m, '/' ∉ q.arg.toList :=
          fun q hq hmem => hslash ⟨q, hq, hmem⟩
        exact hid (mem_identifying_iff.mpr ((mem_ctorSegments_iff hslash).mp hctor))
      · exact .inr (.inl hroute)

/-- A method of shelves whose route asks for a slot, which it declares for a part of the request. -/
def slotMethod (name : String) (source : Source) : Method where
  name := name
  isStatic := false
  accepts := [{ arg := "slot", source := some source }]
  returns := []
  routes := [⟨"GET", "/slots/:slot"⟩]
  restClass := "Shelf"
  aliases := []
  description := none

/-- Shelves, with a method that declares the slot for the path and one that declares it for the
query. -/
def shelfClass : RestClass where
  name := "Shelf"
  ctor := some [{ arg := "shelf" }]
  httpPath := "/shelves"
  methods := [slotMethod "open" .path, slotMethod "peek" .query]

/-- The model of shelves. -/
def shelf : Model := shelfClass.described [shelfClass]

/-- A method of shelves as it is described, with the shelf before the slot. -/
def shelfMethod (name : String) (source : Source) : Method :=
  (slotMethod name source).withCtor shelf.ctor

theorem open_sends_shelf_and_slot :
    ∃ f r, function shelf (shelfMethod "open" .path) = .ok f ∧
      (callerParams (shelfMethod "open" .path)).map Param.arg = ["shelf", "slot"] ∧
      f.body = ["return request(\"GET\", \"/shelves/:shelf/slots/:slot\", "
        ++ "\x7b path: \x7b \"shelf\": shelf, \"slot\": slot \x7d \x7d);"] ∧
      (∀ line ∈ f.body, Request.read? line = some r) ∧
      ∀ p ∈ callerParams (shelfMethod "open" .path),
        AsksFor (segments (actionPath shelf (shelfMethod "open" .path) ⟨"GET", "/slots/:slot"⟩)) p ∧
        (p.arg, variableOf p) ∈ r.entries .path ∧ ForwardedIn r .path p := by
  obtain ⟨f, hf⟩ : ∃ f, function shelf (shelfMethod "open" .path) = .ok f := ⟨_, rfl⟩
  obtain ⟨-, route, hroute, hsends, -, -, hsent⟩ := asked_for_is_forwarded hf
  obtain rfl := Option.some.inj hroute
  have hasks : ∀ p ∈ callerParams (shelfMethod "open" .path),
      AsksFor (segments (actionPath shelf (shelfMethod "open" .path) ⟨"GET", "/slots/:slot"⟩)) p := by
    decide
  have hpath : ∀ p ∈ callerParams (shelfMethod "open" .path),
      p.source = some .path ∨
        p.source = none ∧ p.arg ∈ identifying shelf (shelfMethod "open" .path) := by
    decide
  have htext : (requestOf shelf (shelfMethod "open" .path) ⟨"GET", "/slots/:slot"⟩).text =
      "return request(\"GET\", \"/shelves/:shelf/slots/:slot\", "
        ++ "\x7b path: \x7b \"shelf\": shelf, \"slot\": slot \x7d \x7d);" := by decide
  refine ⟨f, _, hf, by decide, htext ▸ hsends.body_eq, hsends.read_of_mem,
    fun p hp => ⟨hasks p hp, ?_⟩⟩
  obtain hin | ⟨source, hsource, hne, -⟩ | ⟨hnone, hid, -⟩ := hsent p hp (hasks p hp)
  · exact hin
  · rcases hpath p hp with hdeclared | ⟨hnone, -⟩
    · exact absurd (Option.some.inj (hsource.symm.trans hdeclared)) hne
    · cases hsource.symm.trans hnone
  · rcases hpath p hp with hdeclared | ⟨-, hmem⟩
    · cases hdeclared.symm.trans hnone
    · exact absurd hmem hid

/-- A method whose path asks for a slot that the registry declares for the query: the request sends
it there, and has no value for its placeholder. -/
theorem peek_sends_slot_in_query :
    ∃ models m method f route, (describe [shelfClass]).models = .ok models ∧ m ∈ models.toList ∧
      method ∈ m.methods ∧ function m method = .ok f ∧ method.firstRoute? = some route ∧
      f.body = ["return request(\"GET\", \"/shelves/:shelf/slots/:slot\", "
        ++ "\x7b path: \x7b \"shelf\": shelf \x7d, query: \x7b \"slot\": slot \x7d \x7d);"] ∧
      (∀ line ∈ f.body, Request.read? line = some (requestOf m method route)) ∧
      ∃ p ∈ callerParams method, AsksFor (segments (actionPath m method route)) p ∧
        (p.arg, variableOf p) ∈ (requestOf m method route).entries .query ∧
        ∀ value, (p.arg, value) ∉ (requestOf m method route).entries .path := by
  have hnodup : (modelNames [shelfClass]).Nodup := by decide
  obtain ⟨models, htoList, heq⟩ := describe_of_nodup hnodup
  obtain ⟨f, hf⟩ : ∃ f, function shelf (shelfMethod "peek" .query) = .ok f := ⟨_, rfl⟩
  obtain ⟨-, route, hroute, hsends⟩ := exists_written_of_function hf
  obtain rfl := Option.some.inj hroute
  have htext : (requestOf shelf (shelfMethod "peek" .query) ⟨"GET", "/slots/:slot"⟩).text =
      "return request(\"GET\", \"/shelves/:shelf/slots/:slot\", "
        ++ "\x7b path: \x7b \"shelf\": shelf \x7d, query: \x7b \"slot\": slot \x7d \x7d);" := by
    decide
  refine ⟨models, shelf, shelfMethod "peek" .query, f, ⟨"GET", "/slots/:slot"⟩, by rw [heq], ?_,
    List.mem_cons_of_mem _ List.mem_cons_self, hf, rfl, htext ▸ hsends.body_eq, hsends.read_of_mem,
    { arg := "slot", source := some .query }, by decide, by decide, by decide, fun value hvalue => ?_⟩
  · rw [htoList]
    exact List.mem_map_of_mem (List.mem_filter.mpr ⟨List.mem_singleton_self _, rfl⟩)
  · have hpath : (requestOf shelf (shelfMethod "peek" .query) ⟨"GET", "/slots/:slot"⟩).entries .path =
        [("shelf", "shelf")] := by decide
    rw [hpath, List.mem_singleton, Prod.mk.injEq] at hvalue
    exact absurd hvalue.1 (by decide)

end Fetch
end Client
end RestBindings
