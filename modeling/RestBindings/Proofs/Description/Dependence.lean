import RestBindings.Proofs.Description

/-! # What a description depends on

A class is described among all classes of a registry, but all that it takes from them is the
constructors that its methods ask for, by the names of their owners.  Classes among which every name
has the same constructor so describe a class in the same way (`described_congr`).  Three things that
could seem to matter then do not:

* **the order of the classes.**  A look-up takes the first model of a name, but where models can be
  described there is no other (`ctorOf?_of_perm`).  In any other order the same models come out,
  each under its name (`describe_perm`);
* **the services.**  They have no constructor that a look-up could find (`ctorOf?_filter_isModel`).
  Without them the walk finds the same models, or stops at the same one (`describe_filter_isModel`),
  and all that is missing is what it tells of them;
* **the classes that come later**, as long as no method before them says that one of them owns it.
  Their models stand after the others, which stay as they are (`describedModels_append`).
-/
namespace RestBindings

/-- A class is described in the same way among classes with the same constructors. -/
theorem described_congr {classes classes' : List RestClass}
    (h : ∀ name, ctorOf? classes name = ctorOf? classes' name) (c : RestClass) :
    c.described classes = c.described classes' := by
  simp only [RestClass.described, h]

/-! ## The order of classes -/

namespace Models

variable {a b : Models}

theorem get?_eq_some_iff {name : String} {m : Model} :
    a.get? name = some m ↔ m ∈ a.toList ∧ m.name = name := by
  constructor
  · intro h
    exact ⟨List.mem_of_find?_eq_some h, by simpa using List.find?_some h⟩
  · rintro ⟨hm, rfl⟩
    obtain ⟨found, hfound⟩ : ∃ found, a.get? m.name = some found := by
      rw [← Option.isSome_iff_exists, get?, List.find?_isSome]
      exact ⟨m, hm, beq_self_eq_true m.name⟩
    have hname : found.name = m.name := by simpa using List.find?_some hfound
    -- only one model has the name
    rw [hfound, List.inj_on_of_nodup_map a.nodup_names (List.mem_of_find?_eq_some hfound) hm hname]

/-- A model is found under its name, whatever the order. -/
theorem get?_of_perm (h : a.toList.Perm b.toList) (name : String) : a.get? name = b.get? name := by
  refine Option.ext fun m => ?_
  rw [get?_eq_some_iff, get?_eq_some_iff, h.mem_iff]

theorem same_of_perm (h : a.toList.Perm b.toList) : a.Same b := by
  refine ⟨h.length_eq, fun m hm => ?_⟩
  exact get?_eq_some_iff.mpr ⟨h.mem_iff.mp hm, rfl⟩

end Models

section Order

variable {classes classes' : List RestClass} (h : classes.Perm classes')
include h

theorem modelNames_perm : (modelNames classes).Perm (modelNames classes') :=
  (h.filter _).map _

theorem serviceNames_perm : (serviceNames classes).Perm (serviceNames classes') :=
  (h.filter _).map _

/-- Where no two models share a name, a look-up does not depend on the order of the classes. -/
theorem ctorOf?_of_perm (hnodup : (modelNames classes).Nodup) (name : String) :
    ctorOf? classes name = ctorOf? classes' name := by
  have hnodup' : (modelNames classes').Nodup := (modelNames_perm h).nodup_iff.mp hnodup
  refine Option.ext fun accepts => ?_
  simp only [ctorOf?_eq_some_iff hnodup, ctorOf?_eq_some_iff hnodup', h.mem_iff]

theorem describedModels_perm (hnodup : (modelNames classes).Nodup) :
    (describedModels classes).Perm (describedModels classes') := by
  have hsame : RestClass.described classes = RestClass.described classes' :=
    funext (described_congr (ctorOf?_of_perm h hnodup))
  rw [describedModels, describedModels, hsame]
  exact (h.filter _).map _

/-- **The order of classes does not matter.**  Classes in another order can be described exactly
when they can be described in this one.  The models are then the same by name, with all that was
merged into their methods, and the same services are told, in some order. -/
theorem describe_perm :
    ((∃ error, (describe classes).models = .error error) ↔
      ∃ error, (describe classes').models = .error error) ∧
    ∀ models models', (describe classes).models = .ok models →
      (describe classes').models = .ok models' →
      models.Same models' ∧ (∀ name, models.get? name = models'.get? name) ∧
        (describe classes).skipped.Perm (describe classes').skipped := by
  constructor
  · rw [exists_describe_error_iff, exists_describe_error_iff, (modelNames_perm h).nodup_iff]
  · intro models models' hmodels hmodels'
    obtain ⟨hnodup, hlist⟩ := describe_eq_ok_iff.mp hmodels
    obtain ⟨-, hlist'⟩ := describe_eq_ok_iff.mp hmodels'
    have hperm : models.toList.Perm models'.toList := by
      rw [hlist, hlist']
      exact describedModels_perm h hnodup
    refine ⟨Models.same_of_perm hperm, Models.get?_of_perm hperm, ?_⟩
    rw [skipped_of_described hmodels, skipped_of_described hmodels']
    exact serviceNames_perm h

end Order

/-- Two models, the first with a method that the second owns, and a service with the name of the
second. -/
def clubClasses : List RestClass := [
  { name := "Team"
    ctor := some [{ arg := "id" }]
    httpPath := "/teams"
    methods := [{
      name := "join"
      isStatic := false
      accepts := [{ arg := "role" }]
      returns := []
      routes := [⟨"POST", "/join"⟩]
      restClass := "Member"
      aliases := []
      description := none }] },
  { name := "Member", ctor := none, httpPath := "/members", methods := [] },
  { name := "Member", ctor := some [{ arg := "email" }], httpPath := "/members", methods := [] }]

theorem describe_perm_club :
    clubClasses.Perm clubClasses.reverse ∧
    ∃ models models', (describe clubClasses).models = .ok models ∧
      (describe clubClasses.reverse).models = .ok models' ∧
      models.names = ["Team", "Member"] ∧ models'.names = ["Member", "Team"] ∧
      models.Same models' := by
  have hperm : clubClasses.Perm clubClasses.reverse := (List.reverse_perm clubClasses).symm
  have hnodup : (modelNames clubClasses).Nodup := by decide
  obtain ⟨models, hlist, heq⟩ := describe_of_nodup hnodup
  obtain ⟨models', hlist', heq'⟩ := describe_of_nodup ((modelNames_perm hperm).nodup_iff.mp hnodup)
  have hmodels : (describe clubClasses).models = .ok models := by rw [heq]
  have hmodels' : (describe clubClasses.reverse).models = .ok models' := by rw [heq']
  refine ⟨hperm, models, models', hmodels, hmodels', ?_, ?_, ?_⟩
  · rw [Models.names, hlist, map_name_describedModels]
    decide
  · rw [Models.names, hlist', map_name_describedModels]
    decide
  · exact ((describe_perm hperm).2 models models' hmodels hmodels').1

/-! ## Services -/

/-- A service has no constructor that a method could find. -/
theorem ctorOf?_filter_isModel (classes : List RestClass) (name : String) :
    ctorOf? (classes.filter RestClass.isModel) name = ctorOf? classes name := by
  induction classes with
  | nil => rfl
  | cons c rest ih =>
    cases hmodel : c.isModel with
    | true =>
      rw [List.filter_cons_of_pos hmodel]
      simp only [ctorOf?, List.findSome?_cons] at ih ⊢
      rw [ih]
    | false =>
      have hctor : c.ctor = none := by simpa [RestClass.isModel] using hmodel
      rw [List.filter_cons_of_neg (by simp [hmodel]), ih]
      simp [ctorOf?, hctor]

/-- The walk over the models among classes, which tells of nothing on the way. -/
theorem describeFrom_filter_isModel (classes rest : List RestClass) (models : Models)
    (skipped told : List String) :
    describeFrom (classes.filter RestClass.isModel) models told (rest.filter RestClass.isModel) =
      { skipped := told, models := (describeFrom classes models skipped rest).models } := by
  -- over the classes that remain, from any models so far
  induction rest generalizing models skipped with
  | nil => rfl
  | cons c rest ih =>
    cases hmodel : c.isModel with
    | false =>
      rw [List.filter_cons_of_neg (by simp [hmodel]), ih models (skipped ++ [c.name]), describeFrom,
        hmodel, Bool.not_false, if_pos rfl]
    | true =>
      rw [List.filter_cons_of_pos hmodel, describeFrom, describeFrom, hmodel, Bool.not_true,
        if_neg Bool.false_ne_true, if_neg Bool.false_ne_true,
        described_congr (ctorOf?_filter_isModel classes), ih _ skipped]
      split <;> rfl

/-- **Without the services** the walk comes to the same models, or stops with the same error, and
tells of nothing. -/
theorem describe_filter_isModel (classes : List RestClass) :
    describe (classes.filter RestClass.isModel) =
      { skipped := [], models := (describe classes).models } :=
  describeFrom_filter_isModel classes classes .empty [] []

/-! ## Later classes -/

section Later

variable {classes later : List RestClass}

/-- Later classes add nothing under a name that none of them has. -/
theorem ctorOf?_append {name : String} (h : ∀ c ∈ later, c.name ≠ name) :
    ctorOf? (classes ++ later) name = ctorOf? classes name := by
  have hlater : ctorOf? later name = none :=
    ctorOf?_eq_none_iff.mpr fun c hc hname => absurd hname (h c hc)
  rw [ctorOf?] at hlater
  rw [ctorOf?, ctorOf?, List.findSome?_append, hlater, Option.or_none]

/-- A class whose methods ask for none of the later classes is described as before. -/
theorem described_append {c : RestClass}
    (h : ∀ m ∈ c.methods, ∀ d ∈ later, d.name ≠ m.restClass) :
    c.described (classes ++ later) = c.described classes := by
  have hmethods : c.methods.map (fun m => m.withCtor (ctorOf? (classes ++ later) m.restClass)) =
      c.methods.map fun m => m.withCtor (ctorOf? classes m.restClass) :=
    List.map_congr_left fun m hm => by rw [ctorOf?_append (h m hm)]
  rw [RestClass.described, RestClass.described, hmethods]

/-- **Later classes** that no method before them asks for put their models after those before. -/
theorem describedModels_append
    (h : ∀ c ∈ classes, ∀ m ∈ c.methods, ∀ d ∈ later, d.name ≠ m.restClass) :
    describedModels (classes ++ later) = describedModels classes ++
      (later.filter RestClass.isModel).map (RestClass.described (classes ++ later)) := by
  rw [describedModels, describedModels, List.filter_append, List.map_append]
  congr 1
  exact List.map_congr_left fun c hc => described_append (h c (List.mem_of_mem_filter hc))

end Later

end RestBindings
