import RestBindings.Proofs.Client.InstancePath

/-! # Prototype methods ask for the identity first

A method that is called on an instance has to say which instance.  Describing puts the parameters of
the constructor before those of the method, and of every name a generated function takes the first
parameter that the server does not fill.  So where the names of a constructor differ, its parameters
are declared first, in order and as the constructor has them, and a method that names one of them
again adds nothing (`callerParams_append`).  The parameters that identify the instance in the path
are then forwarded in the `path` of the request, and only there (`identity_comes_first`).
-/
namespace RestBindings
namespace Client
namespace Fetch

/-! ## The constructor's parameters come first -/

/-- Where the names of a list differ, it comes first as it is, and no name of it comes again. -/
theorem firstOfEach_append_of_nodup {first : List Param} (hnodup : (first.map Param.arg).Nodup)
    (rest : List Param) :
    firstOfEach (first ++ rest) =
      first ++ firstOfEach (rest.filter fun q => q.arg ∉ first.map Param.arg) := by
  induction first generalizing rest with
  | nil => simp
  | cons p first ih =>
    rw [List.map_cons, List.nodup_cons] at hnodup
    obtain ⟨hp, hnodup⟩ := hnodup
    have hkept : first.filter (·.arg != p.arg) = first := by
      refine List.filter_eq_self.mpr fun q hq => bne_iff_ne.mpr fun heq => ?_
      exact hp (heq ▸ List.mem_map_of_mem hq)
    have hrest : (rest.filter (·.arg != p.arg)).filter (fun q => q.arg ∉ first.map Param.arg) =
        rest.filter fun q => q.arg ∉ (p :: first).map Param.arg := by
      rw [List.filter_filter]
      refine List.filter_congr fun q _ => ?_
      by_cases hq : q.arg = p.arg <;> simp [hq]
    rw [List.cons_append, firstOfEach_cons, List.filter_append, hkept, ih hnodup, hrest,
      List.cons_append]

/-- The parameters of a method that the caller of its constructor does not supply already. -/
def ownParams (ctor own : List Param) : List Param :=
  firstOfEach ((own.filter (!·.isServerSide)).filter
    fun q => q.arg ∉ (ctor.filter (!·.isServerSide)).map Param.arg)

/-- **The caller supplies the parameters of the constructor first.** -/
theorem callerParams_append {method : Method} {ctor own : List Param}
    (haccepts : method.accepts = ctor ++ own) (hnodup : (ctor.map Param.arg).Nodup) :
    callerParams method = ctor.filter (!·.isServerSide) ++ ownParams ctor own := by
  have hsublist : ((ctor.filter (!·.isServerSide)).map Param.arg).Sublist (ctor.map Param.arg) :=
    List.filter_sublist.map Param.arg
  rw [callerParams, haccepts, List.filter_append,
    firstOfEach_append_of_nodup (hnodup.sublist hsublist), ownParams]

/-- A method adds parameters of its own, under names that the constructor does not ask for. -/
theorem mem_ownParams {ctor own : List Param} {q : Param} (hq : q ∈ ownParams ctor own) :
    q ∈ own ∧ q.arg ∉ (ctor.filter (!·.isServerSide)).map Param.arg := by
  have hfound := List.mem_of_find?_eq_some (mem_firstOfEach_iff.mp hq)
  obtain ⟨hcaller, hnew⟩ := List.mem_filter.mp hfound
  exact ⟨(List.mem_filter.mp hcaller).1, of_decide_eq_true hnew⟩

/-- The parameter list of a method falls into the declarations of its constructor's parameters and
those of its own. -/
theorem exists_split_formals (m : Model) {method : Method} {first rest : List Param}
    (hcaller : callerParams method = first ++ rest) :
    ∃ declared others,
      formals ((callerParams method).map (argumentOf (identifying m method))) =
        declared ++ others ∧
      List.Forall₂ Declares first declared ∧ List.Forall₂ Declares rest others := by
  have hall := forall₂_declares_formals (identifying m method) (callerParams method)
  generalize formals ((callerParams method).map (argumentOf (identifying m method))) = texts at hall ⊢
  rw [hcaller] at hall
  refine ⟨texts.take first.length, texts.drop first.length, (List.take_append_drop _ _).symm, ?_, ?_⟩
  · simpa using List.forall₂_take first.length hall
  · simpa using List.forall₂_drop first.length hall

/-! ## The path identifies the instance -/

theorem inPath_iff {p : Param} : inPath p = true ↔ p.source = none ∨ p.source = some .path := by
  rw [inPath]
  cases p.source <;> simp

/-- The model of a class with a constructor, among described classes, and a method of it. -/
theorem exists_described {classes : List RestClass} {models : Models} {c : RestClass}
    {ctor : List Param} {own : Method} (hmodels : (describe classes).models = .ok models)
    (hc : c ∈ classes) (hctor : c.ctor = some ctor) (hown : own ∈ c.methods)
    (hproto : own.isStatic = false) (howner : own.restClass = c.name) :
    ∃ m ∈ models.toList, m.name = c.name ∧ m.ctor = some ctor ∧
      { own with accepts := ctor ++ own.accepts } ∈ m.methods := by
  obtain ⟨hnames, htoList⟩ := describe_eq_ok_iff.mp hmodels
  have hmodel : c ∈ classes.filter RestClass.isModel :=
    List.mem_filter.mpr ⟨hc, by simp [RestClass.isModel, hctor]⟩
  have hfound : ctorOf? classes own.restClass = some ctor :=
    (ctorOf?_eq_some_iff hnames).mpr ⟨c, hc, howner.symm, hctor⟩
  have hmethod : own.withCtor (ctorOf? classes own.restClass) =
      { own with accepts := ctor ++ own.accepts } := by
    simp [hfound, Method.withCtor, hproto]
  refine ⟨c.described classes, ?_, rfl, hctor, ?_⟩
  · rw [htoList]
    exact List.mem_map_of_mem hmodel
  · rw [← hmethod]
    exact List.mem_map_of_mem hown

/-- **Every prototype method asks for the instance identity first.**  The function of a prototype
method that its own class owns declares the parameters of the constructor first, in order, except
those that the server fills, and none of them a second time.  It sends the request of the method, in
which the constructor's parameters for the path stand in `path` under their names, and nowhere else,
whatever the method says of parameters of these names. -/
theorem identity_comes_first {classes : List RestClass} {models : Models} {c : RestClass}
    {ctor : List Param} {own : Method} (hmodels : (describe classes).models = .ok models)
    (hc : c ∈ classes) (hctor : c.ctor = some ctor) (hnodup : (ctor.map Param.arg).Nodup)
    (hown : own ∈ c.methods) (hproto : own.isStatic = false) (howner : own.restClass = c.name) :
    ∃ m ∈ models.toList, m.name = c.name ∧
      ∃ method ∈ m.methods, method = { own with accepts := ctor ++ own.accepts } ∧
        ∀ f, function m method = .ok f →
          (∃ added first others, f.params = String.intercalate ", " (first ++ others) ∧
            List.Forall₂ Declares (ctor.filter (!·.isServerSide)) first ∧
            List.Forall₂ Declares added others ∧
            ∀ q ∈ added,
              q ∈ own.accepts ∧ q.arg ∉ (ctor.filter (!·.isServerSide)).map Param.arg) ∧
          ∃ route, own.firstRoute? = some route ∧ Sends f (requestOf m method route) ∧
            ∀ p ∈ ctor, p.source = none ∨ p.source = some .path →
              (p.arg, variableOf p) ∈ (requestOf m method route).entries .path ∧
              ForwardedIn (requestOf m method route) .path p := by
  obtain ⟨m, hm, hname, hmctor, hmethod⟩ :=
    exists_described hmodels hc hctor hown hproto howner
  refine ⟨m, hm, hname, _, hmethod, rfl, fun f hf => ?_⟩
  obtain ⟨-, route, hroute, hsends⟩ := exists_written_of_function hf
  obtain ⟨_, _, -, hargs, rfl⟩ := function_eq_ok_iff.mp hf
  obtain ⟨hvariables, rfl⟩ := arguments_eq_ok_iff.mp hargs
  have hcaller : callerParams { own with accepts := ctor ++ own.accepts } =
      ctor.filter (!·.isServerSide) ++ ownParams ctor own.accepts := callerParams_append rfl hnodup
  refine ⟨?_, route, hroute, hsends, fun p hp hsource => ?_⟩
  · obtain ⟨first, others, hformals, hfirst, hothers⟩ := exists_split_formals m hcaller
    exact ⟨_, first, others, congrArg (String.intercalate ", ") hformals, hfirst, hothers,
      fun q hq => mem_ownParams hq⟩
  · have hin : inPath p = true := inPath_iff.mpr hsource
    have hcallerMem : p ∈ callerParams { own with accepts := ctor ++ own.accepts } := by
      rw [hcaller]
      exact List.mem_append_left _
        (List.mem_filter.mpr ⟨hp, by simp [isServerSide_of_inPath hin]⟩)
    have hid : p.arg ∈ (pathParams m).map Param.arg := by
      refine List.mem_map_of_mem (List.mem_filter.mpr ⟨?_, hin⟩)
      rwa [hmctor, Option.getD_some]
    have hpart : partOf m { own with accepts := ctor ++ own.accepts } p = .path :=
      (partOf_eq_path_iff hproto hid).mpr hin
    exact forwardedIn_path hvariables hcallerMem hpart route

/-- A method that names the identity again, as a required parameter of the query. -/
def moveMethod : Method where
  name := "move"
  isStatic := false
  accepts := [{ arg := "id", required := true, source := some .query }, { arg := "to" }]
  returns := []
  routes := [⟨"POST", "/move"⟩]
  restClass := "Parcel"
  aliases := []
  description := none

/-- Parcels, which are known by an identity that the path carries and a key that a header does. -/
def parcelClass : RestClass where
  name := "Parcel"
  ctor := some [{ arg := "id" }, { arg := "key", source := some .header },
    { arg := "user", source := some .context }]
  httpPath := "/parcels"
  methods := [moveMethod]

theorem identity_comes_first_move :
    ∃ m method f r, function m method = .ok f ∧
      (∃ added first others, f.params = String.intercalate ", " (first ++ others) ∧
        List.Forall₂ Declares [{ arg := "id" }, { arg := "key", source := some .header }] first ∧
        List.Forall₂ Declares added others) ∧
      f.body = ["return request(\"POST\", \"/parcels/:id/move\", \x7b path: \x7b \"id\": id \x7d, "
        ++ "query: \x7b \"to\": to \x7d, headers: \x7b \"key\": key \x7d \x7d);"] ∧
      (∀ line ∈ f.body, Request.read? line = some r) ∧
      ("id", "id") ∈ r.entries .path ∧ ForwardedIn r .path { arg := "id" } := by
  have hnames : (modelNames [parcelClass]).Nodup := by decide
  have hown : moveMethod ∈ parcelClass.methods := List.mem_cons_self
  obtain ⟨models, htoList, hmodels⟩ := describe_of_nodup hnames
  obtain ⟨m, hm, -, method, -, rfl, hmove⟩ :=
    identity_comes_first (congrArg Description.models hmodels) List.mem_cons_self rfl (by decide)
      hown rfl rfl
  obtain rfl : m = parcelClass.described [parcelClass] := by
    rw [htoList] at hm
    exact List.mem_singleton.mp hm
  obtain ⟨f, hf⟩ : ∃ f, function (parcelClass.described [parcelClass])
      { moveMethod with accepts := parcelClass.ctor.getD [] ++ moveMethod.accepts } = .ok f :=
    ⟨_, rfl⟩
  obtain ⟨⟨added, first, others, hparams, hfirst, hothers, -⟩, route, hroute, hsends, hpath⟩ :=
    hmove f hf
  obtain rfl := Option.some.inj hroute
  obtain ⟨hid, honly⟩ := hpath { arg := "id" } List.mem_cons_self (.inl rfl)
  have htext : (requestOf (parcelClass.described [parcelClass])
      { moveMethod with accepts := parcelClass.ctor.getD [] ++ moveMethod.accepts }
      ⟨"POST", "/move"⟩).text =
        "return request(\"POST\", \"/parcels/:id/move\", \x7b path: \x7b \"id\": id \x7d, "
          ++ "query: \x7b \"to\": to \x7d, headers: \x7b \"key\": key \x7d \x7d);" := by decide
  exact ⟨_, _, f, _, hf, ⟨added, first, others, hparams, hfirst, hothers⟩,
    htext ▸ hsends.body_eq, hsends.read_of_mem, hid, honly⟩

end Fetch
end Client
end RestBindings
