import RestBindings.Proofs.Registry.Lowering
import RestBindings.Registry.ClassSpec

/-! # Loading and building give the same classes

A class comes about in two ways: it is lowered from an entry of a document, or a program builds it
step by step.  Each fills in what is left out by itself: the path of the class, the routes of a
method, the class that owns it, and the form of a verb.  `ClassEntry.spec` is the program that says
what an entry says, one step for each thing that the entry gives and none for what it leaves out.
What it builds is what the entry lowers to (`ClassEntry.lowersTo_build_spec`), so a document is loaded
as the classes that are built from its entries (`RegistryDocument.parse_eq_ok_iff_built`).
-/
namespace RestBindings

/-! ## The steps for an entry -/

/-- The verb as a program writes it, which knows no short form of `delete`. -/
def RouteEntry.fullVerb (route : RouteEntry) : String :=
  if Text.upperAscii route.verb = "DEL" then "delete" else route.verb

/-- The step for a route of a method. -/
def RouteEntry.addTo (methodName : String) (spec : MethodSpec) (route : RouteEntry) : MethodSpec :=
  spec.route route.fullVerb (route.path.getD ("/" ++ methodName))

/-- The steps for a method: one for each parameter, result, other name and route, and one for the
description and the owner where the entry gives them. -/
def MethodEntry.spec (m : MethodEntry) : MethodSpec :=
  let spec := if m.isStatic then MethodSpec.static m.name else MethodSpec.prototype m.name
  let spec := m.accepts.foldl MethodSpec.accepting spec
  let spec := m.returns.foldl MethodSpec.returning spec
  let spec := m.aliases.foldl MethodSpec.calledAlso spec
  let spec := m.description.elim spec spec.described
  let spec := m.restClass.elim spec spec.ownedBy
  m.routes.foldl (RouteEntry.addTo m.name) spec

/-- The steps for a class: it starts as a model if the entry gives a constructor, with one step for
each parameter of that, and as a service if not; then its path where the entry gives it, and one step
for each method. -/
def ClassEntry.spec (c : ClassEntry) : ClassSpec :=
  let spec :=
    match c.ctor with
    | some params => params.foldl ClassSpec.constructing (ClassSpec.model c.name)
    | none => ClassSpec.service c.name
  let spec := c.path.elim spec spec.servedAt
  (c.methods.map MethodEntry.spec).foldl ClassSpec.method spec

/-! ## What the steps add up to -/

/-- Steps that each add one item add up to a step that adds them all. -/
theorem foldl_eq_addAll {σ α : Type} (add : σ → α → σ) (addAll : σ → List α → σ)
    (hnil : ∀ s, addAll s [] = s) (hcons : ∀ s a rest, addAll (add s a) rest = addAll s (a :: rest))
    (items : List α) (s : σ) : items.foldl add s = addAll s items := by
  induction items generalizing s with
  | nil => exact (hnil s).symm
  | cons a rest ih => rw [List.foldl_cons, ih, hcons]

/-- The route that the step for an entry adds. -/
def RouteEntry.written (methodName : String) (route : RouteEntry) : Route :=
  .of route.fullVerb (route.path.getD ("/" ++ methodName))

theorem MethodEntry.spec_eq (m : MethodEntry) :
    m.spec = {
      name := m.name
      isStatic := m.isStatic
      accepts := m.accepts
      returns := m.returns
      routes := m.routes.map (RouteEntry.written m.name)
      aliases := m.aliases
      description := m.description
      restClass := m.restClass } := by
  have haccepts := foldl_eq_addAll MethodSpec.accepting
    (fun s params => { s with accepts := s.accepts ++ params }) (by simp)
    (by simp [MethodSpec.accepting]) m.accepts
  have hreturns := foldl_eq_addAll MethodSpec.returning
    (fun s params => { s with returns := s.returns ++ params }) (by simp)
    (by simp [MethodSpec.returning]) m.returns
  have haliases := foldl_eq_addAll MethodSpec.calledAlso
    (fun s names => { s with aliases := s.aliases ++ names }) (by simp)
    (by simp [MethodSpec.calledAlso]) m.aliases
  have hroutes := foldl_eq_addAll (RouteEntry.addTo m.name)
    (fun s routes => { s with routes := s.routes ++ routes.map (RouteEntry.written m.name) })
    (by simp) (by simp [RouteEntry.addTo, MethodSpec.route, RouteEntry.written]) m.routes
  rw [MethodEntry.spec]
  simp only [haccepts, hreturns, haliases, hroutes]
  cases m.isStatic <;> cases m.description <;> cases m.restClass <;> rfl

theorem ClassEntry.spec_eq (c : ClassEntry) :
    c.spec = {
      name := c.name
      ctor := c.ctor
      httpPath := c.path
      methods := c.methods.map MethodEntry.spec } := by
  have hmethods := foldl_eq_addAll ClassSpec.method
    (fun s methods => { s with methods := s.methods ++ methods }) (by simp)
    (by simp [ClassSpec.method]) (c.methods.map MethodEntry.spec)
  have hctor (params : List Param) :
      params.foldl ClassSpec.constructing (ClassSpec.model c.name) =
        { ClassSpec.model c.name with ctor := some params } := by
    -- a model has a constructor from the start, so every step finds one to add to
    have hadd (start : List Param) : params.foldl ClassSpec.constructing
        { ClassSpec.model c.name with ctor := some start } =
          { ClassSpec.model c.name with ctor := some (start ++ params) } := by
      induction params generalizing start with
      | nil => simp
      | cons p rest ih =>
        have hstep : ClassSpec.constructing { ClassSpec.model c.name with ctor := some start } p =
            { ClassSpec.model c.name with ctor := some (start ++ [p]) } := rfl
        rw [List.foldl_cons, hstep, ih, List.append_assoc, List.singleton_append]
    exact hadd []
  rw [ClassEntry.spec]
  simp only [hmethods]
  cases hgiven : c.ctor with
  | none => cases c.path <;> rfl
  | some params =>
    simp only [hctor]
    cases c.path <;> rfl

/-! ## Building is lowering -/

/-- The step for a route gives the verb that lowering gives. -/
theorem RouteEntry.lowersTo_written (methodName : String) (route : RouteEntry) :
    route.LowersTo methodName (route.written methodName) where
  verb := by
    have hdelete : Text.upperAscii "delete" = "DELETE" := by
      simp [Text.upperAscii, ← String.toList_inj]
    rw [RouteEntry.written, Route.of, RouteEntry.fullVerb, routeVerb]
    split
    · exact hdelete
    · rfl
  path := rfl

theorem MethodEntry.lowersTo_build_spec (className : String) (m : MethodEntry) :
    m.LowersTo className (m.spec.build className) := by
  rw [m.spec_eq]
  refine MethodEntry.lowersTo_of_routes (fun hgiven => ?_) (fun hnone => ?_)
  · -- a method that says where it is served has a route, so none is supplied
    have hne : (m.routes.map (RouteEntry.written m.name)).isEmpty = false := by
      obtain ⟨entries, hentries⟩ := Option.ne_none_iff_exists'.mp hgiven
      simp [MethodEntry.routes, hentries]
    simp only [hne, Bool.false_eq_true, if_false]
    rw [List.forall₂_map_right_iff, List.forall₂_same]
    exact fun route _ => route.lowersTo_written m.name
  · simp [MethodEntry.routes_eq_nil hnone, Route.of_post]

/-- **What the steps for an entry build is what the entry lowers to.** -/
theorem ClassEntry.lowersTo_build_spec (c : ClassEntry) : c.LowersTo c.spec.build := by
  rw [c.spec_eq]
  refine ⟨rfl, rfl, rfl, ?_⟩
  simp only [ClassSpec.build, List.map_map]
  rw [List.forall₂_map_right_iff, List.forall₂_same]
  exact fun m _ => m.lowersTo_build_spec c.name

theorem Document.lower_eq_ok_iff_built {d : Document} {classes : List RestClass} :
    d.lower = .ok classes ↔ d.WellShaped ∧ classes = d.classes.map fun c => c.spec.build := by
  have hbuilt : List.Forall₂ ClassEntry.LowersTo d.classes
      (d.classes.map fun c => c.spec.build) := by
    rw [List.forall₂_map_right_iff, List.forall₂_same]
    exact fun c _ => c.lowersTo_build_spec
  rw [lower_eq_ok_iff]
  constructor
  · rintro ⟨hshaped, hclasses⟩
    exact ⟨hshaped, ClassEntry.rightUnique_lowersTo.forall₂ hclasses hbuilt⟩
  · rintro ⟨hshaped, rfl⟩
    exact ⟨hshaped, hbuilt⟩

/-- **Loading a document gives the classes that are built from its entries**, record by record and
with every default; a document is loaded exactly when it can be read and is well-shaped. -/
theorem RegistryDocument.parse_eq_ok_iff_built (source : SourceText) (registry : RegistryDocument) :
    RegistryDocument.parse source = .ok registry ↔
      ∃ d, Document.ofJson source.content = .ok d ∧ d.WellShaped ∧
        registry.classes = (d.classes.map fun c => c.spec.build) ∧
        registry.resultful = d.resultful := by
  cases hread : Document.ofJson source.content with
  | error refusal => simp [RegistryDocument.parse, hread]
  | ok d =>
    rw [parse_eq_ok_iff hread, Document.lower_eq_ok_iff_built, and_assoc]
    constructor
    · intro h
      exact ⟨d, rfl, h⟩
    · rintro ⟨d', hd, h⟩
      cases hd
      exact h

example : boxDocument.classes.map (fun c => c.spec.build) = [{
    name := "Box"
    ctor := none
    httpPath := "/Box"
    methods := [{
      name := "open", isStatic := false, accepts := [], returns := [],
      routes := [⟨"DELETE", "/open"⟩], restClass := "Box", aliases := [], description := none }] }] := by
  decide +kernel

end RestBindings
