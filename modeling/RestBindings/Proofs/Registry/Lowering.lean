import RestBindings.Proofs.Sequence
import RestBindings.Registry.Lowering

/-! # What lowering accepts, keeps and reports

Lowering is four walks inside one another: over classes, methods, parameters and routes.  Each stops
at the first rule that is broken.  This module says apart what the walks do together.  A document is
**well-shaped** when all its names are there and all its verbs are known; the entries of a
well-shaped document become classes one for one (`LowersTo`), with what they leave out filled in; and
the **faults** of a document are all its broken rules, listed in the order of the entries.  Every
walk is opened by one lemma: it reports the first of its faults, and without faults gives what its
entry lowers to (`ReportsFirst`).

Two documents that differ in the letter case of their verbs only, which is to say that they are the
same with all verbs in upper case (`Document.upper`), give the same classes.
-/
namespace RestBindings

/-! ## Names and verbs -/

/-- A text with a character that is not white space. -/
def HasName (s : String) : Prop := ∃ c ∈ s.toList, Text.isBlank c = false

theorem isBlankText_eq_false_iff {s : String} : Text.isBlankText s = false ↔ HasName s := by
  simp [Text.isBlankText, HasName]

/-- A verb that a route may have, in any letter case. -/
def IsKnownVerb (verb : String) : Prop :=
  Text.upperAscii verb = "DEL" ∨ Text.upperAscii verb ∈ knownVerbs

instance (verb : String) : Decidable (IsKnownVerb verb) := inferInstanceAs (Decidable (_ ∨ _))

/-- The verb of a route: that of its entry in upper case, with `DEL` written out. -/
def routeVerb (verb : String) : String :=
  if Text.upperAscii verb = "DEL" then "DELETE" else Text.upperAscii verb

@[simp] theorem isKnownVerb_upperAscii {verb : String} :
    IsKnownVerb (Text.upperAscii verb) ↔ IsKnownVerb verb := by
  simp [IsKnownVerb]

@[simp] theorem routeVerb_upperAscii (verb : String) :
    routeVerb (Text.upperAscii verb) = routeVerb verb := by
  simp [routeVerb]

theorem upperAscii_routeVerb (verb : String) :
    Text.upperAscii (routeVerb verb) = routeVerb verb := by
  rw [routeVerb]
  split
  · simp [Text.upperAscii, ← String.toList_inj]
  · exact Text.upperAscii_upperAscii verb

theorem knownVerb?_of_isKnownVerb {verb : String} (h : IsKnownVerb verb) :
    knownVerb? verb = some (routeVerb verb) := by
  rw [knownVerb?, routeVerb]
  by_cases hdel : Text.upperAscii verb = "DEL"
  · simp [hdel]
  · have hknown : Text.upperAscii verb ∈ knownVerbs := h.resolve_left hdel
    simp [hdel, hknown]

theorem knownVerb?_of_not_isKnownVerb {verb : String} (h : ¬ IsKnownVerb verb) :
    knownVerb? verb = none := by
  obtain ⟨hdel, hknown⟩ := not_or.mp h
  rw [knownVerb?, if_neg hdel, if_neg hknown]

/-! ## What entries lower to -/

/-- The routes that a method says it is served at. -/
def MethodEntry.routes (m : MethodEntry) : List RouteEntry := (m.http.map (·.toList)).getD []

/-- What the entry of a route lowers to, in a method. -/
structure RouteEntry.LowersTo (methodName : String) (entry : RouteEntry) (route : Route) : Prop where
  verb : route.verb = routeVerb entry.verb
  path : route.path = entry.path.getD ("/" ++ methodName)

/-- What the entry of a method lowers to, in a class. -/
structure MethodEntry.LowersTo (className : String) (entry : MethodEntry) (m : Method) : Prop where
  name : m.name = entry.name
  sharedName : m.sharedName = entry.name
  isStatic : m.isStatic = entry.isStatic
  accepts : m.accepts = entry.accepts
  returns : m.returns = entry.returns
  aliases : m.aliases = entry.aliases
  description : m.description = entry.description
  restClass : m.restClass = entry.restClass.getD className
  /-- The routes stand one for one, in order. -/
  routes : entry.http ≠ none → List.Forall₂ (RouteEntry.LowersTo entry.name) entry.routes m.routes
  /-- A method that does not say where it is served has one route. -/
  defaultRoute : entry.http = none → m.routes = [⟨"POST", "/" ++ entry.name⟩]

/-- What the entry of a class lowers to. -/
structure ClassEntry.LowersTo (entry : ClassEntry) (c : RestClass) : Prop where
  name : c.name = entry.name
  ctor : c.ctor = entry.ctor
  httpPath : c.httpPath = entry.path.getD ("/" ++ entry.name)
  /-- The methods stand one for one, in order. -/
  methods : List.Forall₂ (MethodEntry.LowersTo entry.name) entry.methods c.methods

/-! ## Well-shaped documents -/

/-- A method with names and known verbs. -/
structure MethodEntry.WellShaped (m : MethodEntry) : Prop where
  name : HasName m.name
  accepts : ∀ p ∈ m.accepts, HasName p.arg
  returns : ∀ p ∈ m.returns, HasName p.arg
  routes : ∀ route ∈ m.routes, IsKnownVerb route.verb

/-- A class with names, and with well-shaped methods. -/
structure ClassEntry.WellShaped (c : ClassEntry) : Prop where
  name : HasName c.name
  ctor : ∀ p ∈ c.ctor.getD [], HasName p.arg
  methods : ∀ m ∈ c.methods, m.WellShaped

/-- A document of well-shaped classes. -/
def Document.WellShaped (d : Document) : Prop := ∀ c ∈ d.classes, c.WellShaped

/-! ## Faults -/

/-- The fault of a name that is not there. -/
def nameFaults (name : String) (fault : ShapeFault) : List ShapeFault :=
  if Text.isBlankText name then [fault] else []

/-- The faults of a list of parameters: one for every parameter without a name, at its place. -/
def paramFaults (site : ParamSite) (params : List Param) : List ShapeFault :=
  params.zipIdx.flatMap fun (p, place) => nameFaults p.arg (.unnamedParam site place)

/-- The fault of a route. -/
def RouteEntry.faults (className methodName : String) (route : RouteEntry) : List ShapeFault :=
  if IsKnownVerb route.verb then [] else [.unknownVerb className methodName route.verb]

/-- The faults of a method: of its name, its parameters, its results and its routes. -/
def MethodEntry.faults (className : String) (m : MethodEntry) : List ShapeFault :=
  nameFaults m.name (.unnamedMethod className)
    ++ (paramFaults (.accepts className m.name) m.accepts
    ++ (paramFaults (.returns className m.name) m.returns
    ++ m.routes.flatMap (RouteEntry.faults className m.name)))

/-- The faults of a class at a place in the document: of its name, its constructor and its methods. -/
def ClassEntry.faults (place : Nat) (c : ClassEntry) : List ShapeFault :=
  nameFaults c.name (.unnamedClass place)
    ++ (paramFaults (.ctor c.name) (c.ctor.getD [])
    ++ c.methods.flatMap (MethodEntry.faults c.name))

/-- The faults of a document, class by class. -/
def Document.faults (d : Document) : List ShapeFault :=
  d.classes.zipIdx.flatMap fun (c, place) => c.faults place

theorem nameFaults_eq_nil_iff {name : String} {fault : ShapeFault} :
    nameFaults name fault = [] ↔ HasName name := by
  rw [← isBlankText_eq_false_iff, nameFaults]
  cases Text.isBlankText name <;> simp

/-- Nothing is wrong in a list exactly when nothing is wrong with any member, whatever its place. -/
theorem flatMap_zipIdx_eq_nil_iff {α β : Type} {faults : α → Nat → List β} {sound : α → Prop}
    (h : ∀ a place, faults a place = [] ↔ sound a) (l : List α) (start : Nat) :
    ((l.zipIdx start).flatMap fun (a, place) => faults a place) = [] ↔ ∀ a ∈ l, sound a := by
  induction l generalizing start with
  | nil => simp
  | cons a rest ih =>
    rw [List.zipIdx_cons, List.flatMap_cons, List.append_eq_nil_iff, h, ih, List.forall_mem_cons]

theorem paramFaults_eq_nil_iff {site : ParamSite} {params : List Param} :
    paramFaults site params = [] ↔ ∀ p ∈ params, HasName p.arg := by
  have hname (p : Param) (place : Nat) :
      nameFaults p.arg (.unnamedParam site place) = [] ↔ HasName p.arg :=
    nameFaults_eq_nil_iff
  exact flatMap_zipIdx_eq_nil_iff hname params 0

theorem RouteEntry.faults_eq_nil_iff {className methodName : String} {route : RouteEntry} :
    route.faults className methodName = [] ↔ IsKnownVerb route.verb := by
  rw [RouteEntry.faults]
  split <;> simp [*]

theorem MethodEntry.faults_eq_nil_iff {className : String} {m : MethodEntry} :
    m.faults className = [] ↔ m.WellShaped := by
  simp only [MethodEntry.faults, List.append_eq_nil_iff, nameFaults_eq_nil_iff,
    paramFaults_eq_nil_iff, List.flatMap_eq_nil_iff, RouteEntry.faults_eq_nil_iff]
  exact ⟨fun ⟨hname, haccepts, hreturns, hroutes⟩ => ⟨hname, haccepts, hreturns, hroutes⟩,
    fun ⟨hname, haccepts, hreturns, hroutes⟩ => ⟨hname, haccepts, hreturns, hroutes⟩⟩

theorem ClassEntry.faults_eq_nil_iff {place : Nat} {c : ClassEntry} :
    c.faults place = [] ↔ c.WellShaped := by
  simp only [ClassEntry.faults, List.append_eq_nil_iff, nameFaults_eq_nil_iff,
    paramFaults_eq_nil_iff, List.flatMap_eq_nil_iff, MethodEntry.faults_eq_nil_iff]
  exact ⟨fun ⟨hname, hctor, hmethods⟩ => ⟨hname, hctor, hmethods⟩,
    fun ⟨hname, hctor, hmethods⟩ => ⟨hname, hctor, hmethods⟩⟩

/-- **The well-shaped documents are those without faults.** -/
theorem Document.faults_eq_nil_iff {d : Document} : d.faults = [] ↔ d.WellShaped := by
  have hclass (c : ClassEntry) (place : Nat) : c.faults place = [] ↔ c.WellShaped :=
    ClassEntry.faults_eq_nil_iff
  exact flatMap_zipIdx_eq_nil_iff hclass d.classes 0

/-! ## The walks -/

/-- A rule on a name is looked at before all that follows. -/
theorem reportsFirst_name {α : Type} {name : String} {fault : ShapeFault} {later : List ShapeFault}
    {gives : α → Prop} {next : PUnit → Except ShapeFault α} (h : ReportsFirst later gives (next ())) :
    ReportsFirst (nameFaults name fault ++ later) gives
      (if Text.isBlankText name then throw fault >>= next else next ()) := by
  rw [nameFaults]
  cases Text.isBlankText name with
  | true => exact if_pos rfl
  | false => exact h

/-- The first fault of parameters is at the place of the first that has no name. -/
theorem head?_paramFaults (site : ParamSite) (params : List Param) :
    (paramFaults site params).head? =
      (params.findIdx? fun p => Text.isBlankText p.arg).map fun place => .unnamedParam site place := by
  -- from any place on, since the first parameter without a name may come late
  have hfrom (start : Nat) :
      ((params.zipIdx start).flatMap
        fun (p, place) => nameFaults p.arg (.unnamedParam site place)).head? =
      (params.findIdx? fun p => Text.isBlankText p.arg).map
        fun place => .unnamedParam site (start + place) := by
    induction params generalizing start with
    | nil => rfl
    | cons p rest ih =>
      rw [List.zipIdx_cons, List.flatMap_cons, List.findIdx?_cons]
      dsimp only
      rw [nameFaults]
      cases Text.isBlankText p.arg with
      | true => rfl
      | false =>
        simp [ih (start + 1), Nat.add_assoc, Nat.add_comm 1, Function.comp_def]
  simpa [paramFaults] using hfrom 0

theorem reportsFirst_checkParams (site : ParamSite) (params : List Param) :
    ReportsFirst (paramFaults site params) (fun _ => True) (checkParams site params) := by
  have hhead := head?_paramFaults site params
  rw [checkParams]
  cases hfind : params.findIdx? fun p => Text.isBlankText p.arg with
  | none =>
    rw [hfind, Option.map_none, List.head?_eq_none_iff] at hhead
    rw [hhead]
    exact reportsFirst_ok trivial
  | some place =>
    rw [hfind, Option.map_some] at hhead
    exact reportsFirst_error hhead

theorem RouteEntry.reportsFirst_lower (className methodName : String) (route : RouteEntry) :
    ReportsFirst (route.faults className methodName) (route.LowersTo methodName)
      (route.lower className methodName) := by
  rw [RouteEntry.faults, RouteEntry.lower]
  by_cases hknown : IsKnownVerb route.verb
  · rw [if_pos hknown, knownVerb?_of_isKnownVerb hknown]
    exact reportsFirst_ok ⟨upperAscii_routeVerb route.verb, rfl⟩
  · rw [if_neg hknown, knownVerb?_of_not_isKnownVerb hknown]
    rfl

theorem MethodEntry.routes_eq_nil {m : MethodEntry} (h : m.http = none) : m.routes = [] := by
  rw [MethodEntry.routes, h]
  rfl

theorem Route.of_post (path : String) : Route.of "POST" path = ⟨"POST", path⟩ := by
  simp [Route.of, Text.upperAscii, ← String.toList_inj]

/-- A method lowers to what it says, with routes for those it has or by default. -/
theorem MethodEntry.lowersTo_of_routes {className : String} {m : MethodEntry} {routes : List Route}
    (hroutes : m.http ≠ none → List.Forall₂ (RouteEntry.LowersTo m.name) m.routes routes)
    (hdefault : m.http = none → routes = [⟨"POST", "/" ++ m.name⟩]) :
    m.LowersTo className {
      name := m.name
      isStatic := m.isStatic
      accepts := m.accepts
      returns := m.returns
      routes
      restClass := m.restClass.getD className
      aliases := m.aliases
      description := m.description
      sharedName := m.name } :=
  ⟨rfl, rfl, rfl, rfl, rfl, rfl, rfl, rfl, hroutes, hdefault⟩

theorem MethodEntry.reportsFirst_lower (className : String) (m : MethodEntry) :
    ReportsFirst (m.faults className) (m.LowersTo className) (m.lower className) := by
  rw [MethodEntry.faults, MethodEntry.lower]
  refine reportsFirst_name ?_
  refine (reportsFirst_checkParams _ _).bind fun _ _ => ?_
  refine (reportsFirst_checkParams _ _).bind fun _ _ => ?_
  cases hhttp : m.http with
  | none =>
    rw [MethodEntry.routes_eq_nil hhttp]
    exact reportsFirst_ok (MethodEntry.lowersTo_of_routes (fun h => absurd hhttp h)
      fun _ => congrArg (fun r => [r]) (Route.of_post _))
  | some entries =>
    have hsome : m.routes = entries.toList := by rw [MethodEntry.routes, hhttp]; rfl
    have hlower := ReportsFirst.mapM (l := m.routes)
      fun route _ => RouteEntry.reportsFirst_lower className m.name route
    dsimp only
    rw [← hsome, ← List.append_nil (m.routes.flatMap _)]
    refine hlower.bind fun routes hroutes => ?_
    exact reportsFirst_ok
      (MethodEntry.lowersTo_of_routes (fun _ => hroutes) fun h => by rw [hhttp] at h; cases h)

theorem ClassEntry.reportsFirst_lower (place : Nat) (c : ClassEntry) :
    ReportsFirst (c.faults place) c.LowersTo (c.lower place) := by
  rw [ClassEntry.faults, ClassEntry.lower]
  refine reportsFirst_name ?_
  refine (reportsFirst_checkParams _ _).bind fun _ _ => ?_
  have hlower := ReportsFirst.mapM (l := c.methods)
    fun m _ => MethodEntry.reportsFirst_lower c.name m
  rw [← List.append_nil (c.methods.flatMap _)]
  refine hlower.bind fun methods hmethods => ?_
  exact reportsFirst_ok ⟨rfl, rfl, rfl, hmethods⟩

/-- **Lowering a document** reports the first of its faults, and without faults gives its classes,
one for one and in order. -/
theorem Document.reportsFirst_lower (d : Document) :
    ReportsFirst d.faults (List.Forall₂ ClassEntry.LowersTo d.classes) d.lower := by
  have hlower := ReportsFirst.mapM (l := d.classes.zipIdx)
    fun (pair : ClassEntry × Nat) _ => ClassEntry.reportsFirst_lower pair.2 pair.1
  refine hlower.imp fun classes hclasses => ?_
  rw [← List.zipIdx_map_fst 0 d.classes, List.forall₂_map_left_iff]
  exact hclasses

/-! ## What is lowered to is determined -/

theorem RouteEntry.rightUnique_lowersTo (methodName : String) :
    Relator.RightUnique (RouteEntry.LowersTo methodName) := by
  rintro entry ⟨verb, path⟩ ⟨verb', path'⟩ ⟨hverb, hpath⟩ ⟨hverb', hpath'⟩
  dsimp only at hverb hpath hverb' hpath'
  rw [hverb, hverb', hpath, hpath']

theorem MethodEntry.rightUnique_lowersTo (className : String) :
    Relator.RightUnique (MethodEntry.LowersTo className) := by
  intro entry m m' h h'
  have hroutes : m.routes = m'.routes := by
    by_cases hhttp : entry.http = none
    · rw [h.defaultRoute hhttp, h'.defaultRoute hhttp]
    · exact (RouteEntry.rightUnique_lowersTo entry.name).forall₂ (h.routes hhttp) (h'.routes hhttp)
  cases m
  cases m'
  simp only [Method.mk.injEq]
  exact ⟨h.name.trans h'.name.symm, h.isStatic.trans h'.isStatic.symm,
    h.accepts.trans h'.accepts.symm, h.returns.trans h'.returns.symm, hroutes,
    h.restClass.trans h'.restClass.symm, h.aliases.trans h'.aliases.symm,
    h.description.trans h'.description.symm, h.sharedName.trans h'.sharedName.symm⟩

theorem ClassEntry.rightUnique_lowersTo : Relator.RightUnique ClassEntry.LowersTo := by
  intro entry c c' h h'
  have hmethods : c.methods = c'.methods :=
    (MethodEntry.rightUnique_lowersTo entry.name).forall₂ h.methods h'.methods
  cases c
  cases c'
  simp only [RestClass.mk.injEq]
  exact ⟨h.name.trans h'.name.symm, h.ctor.trans h'.ctor.symm,
    h.httpPath.trans h'.httpPath.symm, hmethods⟩

/-- **The classes of a document**: it has some exactly when it is well-shaped, and then they are what
its entries lower to. -/
theorem Document.lower_eq_ok_iff {d : Document} {classes : List RestClass} :
    d.lower = .ok classes ↔
      d.WellShaped ∧ List.Forall₂ ClassEntry.LowersTo d.classes classes := by
  have hlower := d.reportsFirst_lower
  constructor
  · intro h
    exact ⟨faults_eq_nil_iff.mp (hlower.exists_ok_iff.mp ⟨classes, h⟩), hlower.of_eq_ok h⟩
  · rintro ⟨hshaped, hclasses⟩
    obtain ⟨found, hfound⟩ := hlower.exists_ok_iff.mpr (faults_eq_nil_iff.mpr hshaped)
    rw [hfound, ClassEntry.rightUnique_lowersTo.forall₂ (hlower.of_eq_ok hfound) hclasses]

/-! ## Letter case of verbs -/

/-- The entry with its verb in upper case. -/
def RouteEntry.upper (route : RouteEntry) : RouteEntry :=
  { route with verb := Text.upperAscii route.verb }

/-- The entry with its verbs in upper case. -/
def MethodEntry.upper (m : MethodEntry) : MethodEntry :=
  { m with http := m.http.map fun routes => ⟨routes.first.upper, routes.others.map .upper⟩ }

/-- The entry with its verbs in upper case. -/
def ClassEntry.upper (c : ClassEntry) : ClassEntry := { c with methods := c.methods.map .upper }

/-- The document with its verbs in upper case. -/
def Document.upper (d : Document) : Document := { d with classes := d.classes.map .upper }

theorem MethodEntry.routes_upper (m : MethodEntry) : m.upper.routes = m.routes.map .upper := by
  cases hhttp : m.http <;> simp [MethodEntry.upper, MethodEntry.routes, hhttp, RouteEntries.toList]

theorem MethodEntry.http_upper_eq_none_iff {m : MethodEntry} :
    m.upper.http = none ↔ m.http = none := Option.map_eq_none_iff

theorem RouteEntry.lowersTo_upper_iff {methodName : String} {entry : RouteEntry} {route : Route} :
    entry.upper.LowersTo methodName route ↔ entry.LowersTo methodName route := by
  have hverb : routeVerb entry.upper.verb = routeVerb entry.verb := routeVerb_upperAscii entry.verb
  exact ⟨fun h => ⟨h.verb.trans hverb, h.path⟩, fun h => ⟨h.verb.trans hverb.symm, h.path⟩⟩

theorem MethodEntry.lowersTo_upper_iff {className : String} {entry : MethodEntry} {m : Method} :
    entry.upper.LowersTo className m ↔ entry.LowersTo className m := by
  have hroutes : List.Forall₂ (RouteEntry.LowersTo entry.name) entry.upper.routes m.routes ↔
      List.Forall₂ (RouteEntry.LowersTo entry.name) entry.routes m.routes := by
    simp only [MethodEntry.routes_upper, List.forall₂_map_left_iff, RouteEntry.lowersTo_upper_iff]
  constructor
  · intro h
    exact ⟨h.name, h.sharedName, h.isStatic, h.accepts, h.returns, h.aliases, h.description,
      h.restClass,
      fun hhttp => hroutes.mp (h.routes (mt http_upper_eq_none_iff.mp hhttp)),
      fun hhttp => h.defaultRoute (http_upper_eq_none_iff.mpr hhttp)⟩
  · intro h
    exact ⟨h.name, h.sharedName, h.isStatic, h.accepts, h.returns, h.aliases, h.description,
      h.restClass,
      fun hhttp => hroutes.mpr (h.routes (mt http_upper_eq_none_iff.mpr hhttp)),
      fun hhttp => h.defaultRoute (http_upper_eq_none_iff.mp hhttp)⟩

theorem ClassEntry.lowersTo_upper_iff {entry : ClassEntry} {c : RestClass} :
    entry.upper.LowersTo c ↔ entry.LowersTo c := by
  have hmethods : List.Forall₂ (MethodEntry.LowersTo entry.name) entry.upper.methods c.methods ↔
      List.Forall₂ (MethodEntry.LowersTo entry.name) entry.methods c.methods := by
    simp only [ClassEntry.upper, List.forall₂_map_left_iff, MethodEntry.lowersTo_upper_iff]
  exact ⟨fun h => ⟨h.name, h.ctor, h.httpPath, hmethods.mp h.methods⟩,
    fun h => ⟨h.name, h.ctor, h.httpPath, hmethods.mpr h.methods⟩⟩

theorem MethodEntry.wellShaped_upper_iff {m : MethodEntry} : m.upper.WellShaped ↔ m.WellShaped := by
  have hroutes : (∀ route ∈ m.upper.routes, IsKnownVerb route.verb) ↔
      ∀ route ∈ m.routes, IsKnownVerb route.verb := by
    simp only [MethodEntry.routes_upper, List.forall_mem_map, RouteEntry.upper,
      isKnownVerb_upperAscii]
  exact ⟨fun h => ⟨h.name, h.accepts, h.returns, hroutes.mp h.routes⟩,
    fun h => ⟨h.name, h.accepts, h.returns, hroutes.mpr h.routes⟩⟩

theorem ClassEntry.wellShaped_upper_iff {c : ClassEntry} : c.upper.WellShaped ↔ c.WellShaped := by
  have hmethods : (∀ m ∈ c.upper.methods, m.WellShaped) ↔ ∀ m ∈ c.methods, m.WellShaped := by
    simp only [ClassEntry.upper, List.forall_mem_map, MethodEntry.wellShaped_upper_iff]
  exact ⟨fun h => ⟨h.name, h.ctor, hmethods.mp h.methods⟩,
    fun h => ⟨h.name, h.ctor, hmethods.mpr h.methods⟩⟩

/-- **The letter case of verbs does not matter** for the classes of a document. -/
theorem Document.lower_upper_eq_ok_iff {d : Document} {classes : List RestClass} :
    d.upper.lower = .ok classes ↔ d.lower = .ok classes := by
  simp only [lower_eq_ok_iff, WellShaped, upper, List.forall_mem_map, List.forall₂_map_left_iff,
    ClassEntry.wellShaped_upper_iff, ClassEntry.lowersTo_upper_iff]

/-! ## Parsing -/

/-- What is made of the lowering of a document that was read. -/
theorem RegistryDocument.parse_of_ofJson {source : SourceText} {d : Document}
    (hread : Document.ofJson source.content = .ok d) :
    RegistryDocument.parse source =
      match d.lower with
      | .error fault => .error (source.broken fault.message fault.needle?)
      | .ok classes => .ok { classes, resultful := d.resultful } := by
  cases hlower : d.lower <;> simp only [RegistryDocument.parse, hread, hlower]

theorem RegistryDocument.parse_eq_ok_iff {source : SourceText} {d : Document}
    (hread : Document.ofJson source.content = .ok d) {registry : RegistryDocument} :
    RegistryDocument.parse source = .ok registry ↔
      d.lower = .ok registry.classes ∧ registry.resultful = d.resultful := by
  rw [parse_of_ofJson hread]
  cases d.lower with
  | error fault => simp
  | ok classes =>
    cases registry
    simp [eq_comm]

/-- **What becomes of a document that was read.**  It is accepted exactly when it is well-shaped.  Its
classes are then what its entries lower to, in order, and its setting is kept; both are the same for
a document with other letter cases in its verbs.  Otherwise the error is that of the first of its
faults. -/
theorem RegistryDocument.parse_outcome {source : SourceText} {d : Document}
    (hread : Document.ofJson source.content = .ok d) :
    ((∃ registry, RegistryDocument.parse source = .ok registry) ↔ d.WellShaped) ∧
    (∀ registry, RegistryDocument.parse source = .ok registry →
      List.Forall₂ ClassEntry.LowersTo d.classes registry.classes ∧
      registry.resultful = d.resultful) ∧
    (∀ (source' : SourceText) (d' : Document), Document.ofJson source'.content = .ok d' →
      d'.upper = d.upper → ∀ registry,
        RegistryDocument.parse source' = .ok registry ↔ RegistryDocument.parse source = .ok registry) ∧
    (∀ error, RegistryDocument.parse source = .error error →
      ∃ fault, d.faults.head? = some fault ∧
        error = source.broken fault.message fault.needle?) := by
  have hlower := d.reportsFirst_lower
  refine ⟨?_, ?_, ?_, ?_⟩
  · rw [← Document.faults_eq_nil_iff, ← hlower.exists_ok_iff]
    simp only [parse_eq_ok_iff hread]
    constructor
    · rintro ⟨registry, h, -⟩
      exact ⟨registry.classes, h⟩
    · rintro ⟨classes, h⟩
      exact ⟨⟨classes, d.resultful⟩, h, rfl⟩
  · intro registry h
    obtain ⟨hclasses, hresultful⟩ := (parse_eq_ok_iff hread).mp h
    exact ⟨hlower.of_eq_ok hclasses, hresultful⟩
  · intro source' d' hread' hupper registry
    have hresultful : d'.upper.resultful = d.upper.resultful := by rw [hupper]
    have hresultful : d'.resultful = d.resultful := hresultful
    rw [parse_eq_ok_iff hread', parse_eq_ok_iff hread, ← Document.lower_upper_eq_ok_iff, hupper,
      Document.lower_upper_eq_ok_iff, hresultful]
  · intro error h
    rw [parse_of_ofJson hread] at h
    cases hd : d.lower with
    | ok classes => simp [hd] at h
    | error fault =>
      rw [hd] at h
      cases h
      exact ⟨fault, hlower.eq_error_iff.mp hd, rfl⟩

/-- A document that leaves most of what it says to the defaults. -/
def boxText : SourceText where
  file := "box.json"
  content := "\x7b\"classes\": [\x7b\"name\": \"Box\", \"methods\": "
    ++ "[\x7b\"name\": \"open\", \"http\": \x7b\"verb\": \"Del\"\x7d\x7d]\x7d]\x7d"

def boxDocument : Document where
  classes := [{ name := "Box", methods := [{ name := "open", http := some ⟨{ verb := "Del" }, []⟩ }] }]

/-- A document with two faults, the first of them in a route. -/
def crateText : SourceText where
  file := "crate.json"
  content := "\x7b\"classes\": [\x7b\"name\": \"Crate\", \"methods\": [\x7b\"name\": \"lift\", "
    ++ "\"http\": \x7b\"verb\": \"fetch\"\x7d\x7d]\x7d, \x7b\"name\": \" \"\x7d]\x7d"

def crateDocument : Document where
  classes := [
    { name := "Crate", methods := [{ name := "lift", http := some ⟨{ verb := "fetch" }, []⟩ }] },
    { name := " " }]

theorem ofJson_boxText : Document.ofJson boxText.content = .ok boxDocument := by decide +kernel

theorem ofJson_crateText : Document.ofJson crateText.content = .ok crateDocument := by
  decide +kernel

theorem faults_boxDocument : boxDocument.faults = [] := by decide +kernel

theorem faults_crateDocument :
    crateDocument.faults = [.unknownVerb "Crate" "lift" "fetch", .unnamedClass 1] := by
  decide +kernel

theorem parse_outcome_box_crate :
    (∃ registry, RegistryDocument.parse boxText = .ok registry ∧
      List.Forall₂ ClassEntry.LowersTo boxDocument.classes registry.classes) ∧
    ∃ error, RegistryDocument.parse crateText = .error error ∧
      error.message = "classes.Crate.methods.lift uses unknown HTTP verb 'fetch'" := by
  obtain ⟨haccepts, hkeeps, -, -⟩ := RegistryDocument.parse_outcome ofJson_boxText
  obtain ⟨hrefuses, -, -, hreports⟩ := RegistryDocument.parse_outcome ofJson_crateText
  constructor
  · obtain ⟨registry, hparse⟩ := haccepts.mpr (Document.faults_eq_nil_iff.mp faults_boxDocument)
    exact ⟨registry, hparse, (hkeeps registry hparse).1⟩
  · cases hparse : RegistryDocument.parse crateText with
    | ok registry =>
      have hnone := Document.faults_eq_nil_iff.mpr (hrefuses.mp ⟨registry, hparse⟩)
      rw [faults_crateDocument] at hnone
      cases hnone
    | error error =>
      obtain ⟨fault, hfault, rfl⟩ := hreports error hparse
      rw [faults_crateDocument] at hfault
      cases hfault
      exact ⟨_, rfl, by decide⟩

end RestBindings
