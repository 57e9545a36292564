import Mathlib.Data.List.Forall2
import Mathlib.Data.List.Nodup
import RestBindings.Model.Description

/-! # What describing does

`describe` walks the classes once and keeps what it has: the models so far and the services it told
of.  Its methods meanwhile look constructors up in the whole list, where the first model of a name
wins.  This module reads both off the list of classes: which names must differ for the walk to end
(`modelNames`), what is told on the way (`serviceNames`), which models come out
(`describedModels`), and what becomes of every method (`Method.DescribedAs`).

The walk is opened once, in `describeFrom_cases`: from any models so far it either goes through, or
it stops at the first model whose name is taken.  Because a walk that goes through has seen no name
twice, the constructor a method asks for is then the constructor of the only model of that name
(`ctorOf?_eq_some_iff`).
-/
namespace RestBindings

/-! ## Models and services among classes -/

/-- The names of the classes with a shared constructor, in order. -/
def modelNames (classes : List RestClass) : List String :=
  (classes.filter RestClass.isModel).map RestClass.name

/-- The names of the classes without a shared constructor, in order. -/
def serviceNames (classes : List RestClass) : List String :=
  (classes.filter (!·.isModel)).map RestClass.name

/-- The models of classes, in order, with the constructors they find in the whole list. -/
def describedModels (classes : List RestClass) : List Model :=
  (classes.filter RestClass.isModel).map (RestClass.described classes)

@[simp] theorem modelNames_nil : modelNames [] = [] := rfl

@[simp] theorem serviceNames_nil : serviceNames [] = [] := rfl

theorem modelNames_cons_of_isModel {c : RestClass} (h : c.isModel = true) (rest : List RestClass) :
    modelNames (c :: rest) = c.name :: modelNames rest := by
  simp [modelNames, h]

theorem modelNames_cons_of_not_isModel {c : RestClass} (h : c.isModel = false)
    (rest : List RestClass) : modelNames (c :: rest) = modelNames rest := by
  simp [modelNames, h]

theorem serviceNames_cons_of_isModel {c : RestClass} (h : c.isModel = true)
    (rest : List RestClass) : serviceNames (c :: rest) = serviceNames rest := by
  simp [serviceNames, h]

theorem serviceNames_cons_of_not_isModel {c : RestClass} (h : c.isModel = false)
    (rest : List RestClass) : serviceNames (c :: rest) = c.name :: serviceNames rest := by
  simp [serviceNames, h]

theorem modelNames_append (first rest : List RestClass) :
    modelNames (first ++ rest) = modelNames first ++ modelNames rest := by
  simp [modelNames]

@[simp] theorem map_name_describedModels (classes : List RestClass) :
    (describedModels classes).map Model.name = modelNames classes := by
  simp only [describedModels, modelNames, List.map_map]
  rfl

/-! ## Models by name -/

theorem insertModel_of_not_mem {m : Model} {l : List Model} (h : m.name ∉ l.map Model.name) :
    insertModel m l = l ++ [m] := by
  induction l with
  | nil => rfl
  | cons n rest ih =>
    rw [List.map_cons, List.mem_cons, not_or] at h
    rw [insertModel, if_neg (Ne.symm h.1), ih h.2, List.cons_append]

theorem Models.contains_iff {models : Models} {name : String} :
    models.contains name = true ↔ name ∈ models.names := by
  simp [Models.contains, Models.names]

theorem Models.names_nodup (models : Models) : models.names.Nodup := models.nodup_names

/-! ## The walk -/

/-- **What the walk can do**: go through, or stop at the first model whose name is taken by the
models so far or by a model that it walked over. -/
theorem describeFrom_cases (classes rest : List RestClass) (models : Models)
    (skipped : List String) :
    (∃ described : Models,
      (models.names ++ modelNames rest).Nodup ∧
      described.toList = models.toList ++ (rest.filter RestClass.isModel).map (·.described classes) ∧
      describeFrom classes models skipped rest =
        { skipped := skipped ++ serviceNames rest, models := .ok described }) ∨
    (∃ before c after, rest = before ++ c :: after ∧ c.isModel = true ∧
      (models.names ++ modelNames before).Nodup ∧ c.name ∈ models.names ++ modelNames before ∧
      describeFrom classes models skipped rest =
        { skipped := skipped ++ serviceNames before
          models := .error (.duplicateModel c.name) }) := by
  induction rest generalizing models skipped with
  | nil => exact .inl ⟨models, by simpa using models.names_nodup, by simp, by simp [describeFrom]⟩
  | cons c rest ih =>
    rw [describeFrom]
    cases hmodel : c.isModel with
    | false =>
      rw [Bool.not_false, if_pos rfl, modelNames_cons_of_not_isModel hmodel,
        serviceNames_cons_of_not_isModel hmodel, List.filter_cons_of_neg (by simp [hmodel])]
      obtain ⟨described, hnodup, hlist, heq⟩ | ⟨before, d, after, hrest, hd, hnodup, hmem, heq⟩ :=
        ih models (skipped ++ [c.name])
      · exact .inl ⟨described, hnodup, hlist, by simpa using heq⟩
      · refine .inr ⟨c :: before, d, after, by rw [hrest, List.cons_append], hd, ?_, ?_, ?_⟩
        · rwa [modelNames_cons_of_not_isModel hmodel]
        · rwa [modelNames_cons_of_not_isModel hmodel]
        · simpa [serviceNames_cons_of_not_isModel hmodel] using heq
    | true =>
      rw [Bool.not_true, if_neg Bool.false_ne_true]
      by_cases htaken : models.contains c.name = true
      · rw [if_pos htaken]
        exact .inr ⟨[], c, rest, rfl, hmodel, by simpa using models.names_nodup,
          by simpa using Models.contains_iff.mp htaken, by simp⟩
      · rw [if_neg htaken]
        have hfresh : (c.described classes).name ∉ models.toList.map Model.name :=
          fun h => htaken (Models.contains_iff.mpr h)
        have hlist : (models.insert (c.described classes)).toList =
            models.toList ++ [c.described classes] := insertModel_of_not_mem hfresh
        have hnames : (models.insert (c.described classes)).names = models.names ++ [c.name] := by
          rw [Models.names, hlist, List.map_append]
          rfl
        -- the names so far grow by the name of `c`, at their end
        have hshift (l : List RestClass) :
            (models.insert (c.described classes)).names ++ modelNames l =
              models.names ++ modelNames (c :: l) := by
          rw [hnames, modelNames_cons_of_isModel hmodel, List.append_assoc, List.singleton_append]
        obtain ⟨described, hnodup, htoList, heq⟩ |
            ⟨before, d, after, hrest, hd, hnodup, hmem, heq⟩ :=
          ih (models.insert (c.described classes)) skipped
        · refine .inl ⟨described, hshift rest ▸ hnodup, ?_, ?_⟩
          · rw [htoList, hlist, List.filter_cons_of_pos hmodel]
            simp
          · rw [heq, serviceNames_cons_of_isModel hmodel]
        · refine .inr ⟨c :: before, d, after, by rw [hrest, List.cons_append], hd,
            hshift before ▸ hnodup, hshift before ▸ hmem, ?_⟩
          rw [heq, serviceNames_cons_of_isModel hmodel]

/-! ## Constructors -/

/-- No model has a name. -/
theorem ctorOf?_eq_none_iff {classes : List RestClass} {name : String} :
    ctorOf? classes name = none ↔ ∀ c ∈ classes, c.name = name → c.ctor = none := by
  simp [ctorOf?]

/-- **Constructors are unambiguous.**  Where no two models share a name, looking a constructor up by
the name of a model finds that model's, wherever in the list it stands. -/
theorem ctorOf?_eq_some_iff {classes : List RestClass} (hnodup : (modelNames classes).Nodup)
    {name : String} {accepts : List Param} :
    ctorOf? classes name = some accepts ↔
      ∃ c ∈ classes, c.name = name ∧ c.ctor = some accepts := by
  constructor
  · intro h
    obtain ⟨c, hc, hfound⟩ := List.exists_of_findSome?_eq_some h
    split at hfound
    next hname => exact ⟨c, hc, hname, hfound⟩
    next => cases hfound
  · rintro ⟨c, hc, rfl, hctor⟩
    cases hfound : ctorOf? classes c.name with
    | none =>
      rw [ctorOf?_eq_none_iff.mp hfound c hc rfl] at hctor
      cases hctor
    | some found =>
      obtain ⟨d, hd, hdfound⟩ := List.exists_of_findSome?_eq_some hfound
      split at hdfound
      next hname =>
        have hmem {e : RestClass} {l : List Param} (he : e ∈ classes) (hl : e.ctor = some l) :
            e ∈ classes.filter RestClass.isModel :=
          List.mem_filter.mpr ⟨he, by simp [RestClass.isModel, hl]⟩
        have hsame : d = c :=
          List.inj_on_of_nodup_map hnodup (hmem hd hdfound) (hmem hc hctor) hname
        rw [← hdfound, hsame, hctor]
      next => cases hdfound

/-- What describing makes of a method among classes. -/
structure Method.DescribedAs (classes : List RestClass) (m described : Method) : Prop where
  /-- Only the parameters change. -/
  others : { described with accepts := m.accepts } = m
  /-- A prototype method asks for the parameters of its owner's constructor first. -/
  merged : m.isStatic = false → ∀ c ∈ classes, c.name = m.restClass →
    ∀ accepts, c.ctor = some accepts → described.accepts = accepts ++ m.accepts
  /-- A static method keeps its parameters. -/
  kept_of_static : m.isStatic = true → described.accepts = m.accepts
  /-- A method whose owner is unknown or no model keeps its parameters. -/
  kept_of_unowned : (∀ c ∈ classes, c.name = m.restClass → c.ctor = none) →
    described.accepts = m.accepts

/-- What describing makes of a class among classes. -/
structure RestClass.DescribedAs (classes : List RestClass) (c : RestClass) (m : Model) : Prop where
  name : m.name = c.name
  ctor : m.ctor = c.ctor
  httpPath : m.httpPath = c.httpPath
  /-- The user model is known by its name in lower case. -/
  isUser : m.isUser = true ↔ c.name.toList.flatMap Text.lower = ['u', 's', 'e', 'r']
  /-- The methods stand one for one, in order. -/
  methods : List.Forall₂ (Method.DescribedAs classes) c.methods m.methods

theorem Method.describedAs_withCtor {classes : List RestClass}
    (hnodup : (modelNames classes).Nodup) (m : Method) :
    m.DescribedAs classes (m.withCtor (ctorOf? classes m.restClass)) where
  others := by
    unfold Method.withCtor
    split
    · split <;> rfl
    · rfl
  merged := by
    intro hproto c hc hname accepts hctor
    rw [(ctorOf?_eq_some_iff hnodup).mpr ⟨c, hc, hname, hctor⟩]
    simp [Method.withCtor, hproto]
  kept_of_static := by
    intro hstatic
    unfold Method.withCtor
    split <;> simp [hstatic]
  kept_of_unowned := by
    intro hnone
    rw [ctorOf?_eq_none_iff.mpr hnone, Method.withCtor]

theorem RestClass.describedAs_described {classes : List RestClass}
    (hnodup : (modelNames classes).Nodup) (c : RestClass) :
    c.DescribedAs classes (c.described classes) where
  name := rfl
  ctor := rfl
  httpPath := rfl
  isUser := beq_iff_eq
  methods := by
    rw [show (c.described classes).methods =
      c.methods.map fun m => m.withCtor (ctorOf? classes m.restClass) from rfl,
      List.forall₂_map_right_iff, List.forall₂_same]
    exact fun m _ => m.describedAs_withCtor hnodup

/-! ## Describing a list of classes -/

/-- Describing goes through exactly when no two models share a name, and then gives the models in
order. -/
theorem describe_of_nodup {classes : List RestClass} (hnodup : (modelNames classes).Nodup) :
    ∃ models : Models, models.toList = describedModels classes ∧
      describe classes = { skipped := serviceNames classes, models := .ok models } := by
  obtain ⟨models, -, htoList, heq⟩ | ⟨before, c, after, rfl, hc, -, hmem, -⟩ :=
    describeFrom_cases classes classes .empty []
  · exact ⟨models, htoList, heq⟩
  · rw [modelNames_append, modelNames_cons_of_isModel hc] at hnodup
    have hmem : c.name ∈ modelNames before := hmem
    exact absurd rfl ((List.nodup_append.mp hnodup).2.2 _ hmem _ List.mem_cons_self)

/-- Describing stops at the first model whose name a model before it has. -/
theorem describe_of_not_nodup {classes : List RestClass} (h : ¬ (modelNames classes).Nodup) :
    ∃ before c after, classes = before ++ c :: after ∧ c.isModel = true ∧
      (modelNames before).Nodup ∧ c.name ∈ modelNames before ∧
      describe classes =
        { skipped := serviceNames before, models := .error (.duplicateModel c.name) } := by
  obtain ⟨models, hnodup, -, -⟩ | hstop := describeFrom_cases classes classes .empty []
  · exact absurd hnodup h
  · exact hstop

theorem describe_eq_ok_iff {classes : List RestClass} {models : Models} :
    (describe classes).models = .ok models ↔
      (modelNames classes).Nodup ∧ models.toList = describedModels classes := by
  by_cases hnodup : (modelNames classes).Nodup
  · obtain ⟨described, htoList, heq⟩ := describe_of_nodup hnodup
    rw [heq, Except.ok.injEq, ← htoList]
    refine ⟨fun h => ⟨hnodup, congrArg Models.toList h.symm⟩, fun h => ?_⟩
    cases models
    cases described
    cases h.2
    rfl
  · obtain ⟨before, c, after, -, -, -, -, heq⟩ := describe_of_not_nodup hnodup
    simp [heq, hnodup]

/-- What is told of all services where models can be described. -/
theorem skipped_of_described {classes : List RestClass} {models : Models}
    (h : (describe classes).models = .ok models) :
    (describe classes).skipped = serviceNames classes := by
  obtain ⟨hnodup, -⟩ := describe_eq_ok_iff.mp h
  obtain ⟨described, -, heq⟩ := describe_of_nodup hnodup
  rw [heq]

/-- Describing fails exactly when two models share a name. -/
theorem exists_describe_error_iff {classes : List RestClass} :
    (∃ error, (describe classes).models = .error error) ↔ ¬ (modelNames classes).Nodup := by
  constructor
  · rintro ⟨error, herror⟩ hnodup
    obtain ⟨models, -, heq⟩ := describe_of_nodup hnodup
    rw [heq] at herror
    cases herror
  · intro h
    obtain ⟨before, c, after, -, -, -, -, heq⟩ := describe_of_not_nodup h
    exact ⟨.duplicateModel c.name, by rw [heq]⟩

/-- Describing can only fail with a name that two models share. -/
theorem eq_duplicateModel_of_describe {classes : List RestClass} {error : DescribeError}
    (h : (describe classes).models = .error error) : ∃ name, error = .duplicateModel name := by
  obtain ⟨before, c, after, -, -, -, -, heq⟩ :=
    describe_of_not_nodup (exists_describe_error_iff.mp ⟨error, h⟩)
  rw [heq] at h
  exact ⟨c.name, (Except.error.inj h).symm⟩

@[simp] theorem Method.isStatic_withCtor (ctor : Option (List Param)) (m : Method) :
    (m.withCtor ctor).isStatic = m.isStatic := by
  unfold Method.withCtor
  split
  · split <;> rfl
  · rfl

@[simp] theorem Method.restClass_withCtor (ctor : Option (List Param)) (m : Method) :
    (m.withCtor ctor).restClass = m.restClass := by
  unfold Method.withCtor
  split
  · split <;> rfl
  · rfl

@[simp] theorem Method.routes_withCtor (ctor : Option (List Param)) (m : Method) :
    (m.withCtor ctor).routes = m.routes := by
  unfold Method.withCtor
  split
  · split <;> rfl
  · rfl

/-- A prototype method whose owner is its own model asks for the parameters of the model's
constructor first. -/
theorem accepts_of_restClass_eq {classes : List RestClass} {models : Models} {m : Model}
    {method : Method} (hmodels : (describe classes).models = .ok models) (hm : m ∈ models.toList)
    (hmethod : method ∈ m.methods) (hproto : method.isStatic = false)
    (howner : method.restClass = m.name) :
    ∃ own, method.accepts = m.ctor.getD [] ++ own := by
  obtain ⟨hnodup, htoList⟩ := describe_eq_ok_iff.mp hmodels
  rw [htoList, describedModels] at hm
  obtain ⟨c, hc, rfl⟩ := List.mem_map.mp hm
  obtain ⟨hc, hmodel⟩ := List.mem_filter.mp hc
  obtain ⟨raw, -, rfl⟩ := List.mem_map.mp hmethod
  rw [Method.isStatic_withCtor] at hproto
  rw [Method.restClass_withCtor] at howner
  obtain ⟨accepts, hctor⟩ := Option.isSome_iff_exists.mp hmodel
  refine ⟨raw.accepts, ?_⟩
  rw [(raw.describedAs_withCtor hnodup).merged hproto c hc howner.symm accepts hctor]
  exact congrArg (· ++ raw.accepts) (congrArg (Option.getD · []) hctor.symm)

/-- **What describing does with a list of classes.**  It succeeds exactly when no two models share a
name; it then gives the models in order, each with the constructors merged into its methods, and
tells of all services.  Otherwise it names the first model that repeats the name of a model before
it, and has told of the services up to there. -/
theorem describe_outcome (classes : List RestClass) :
    ((∃ models, (describe classes).models = .ok models) ↔ (modelNames classes).Nodup) ∧
    (∀ models, (describe classes).models = .ok models →
      models.names = modelNames classes ∧
      List.Forall₂ (RestClass.DescribedAs classes) (classes.filter RestClass.isModel)
        models.toList ∧
      (describe classes).skipped = serviceNames classes) ∧
    (∀ error, (describe classes).models = .error error →
      ∃ before c after, classes = before ++ c :: after ∧ c.isModel = true ∧
        c.name ∈ modelNames before ∧ (modelNames before).Nodup ∧
        error = .duplicateModel c.name ∧ (describe classes).skipped = serviceNames before) := by
  by_cases hnodup : (modelNames classes).Nodup
  · obtain ⟨described, htoList, heq⟩ := describe_of_nodup hnodup
    rw [heq]
    refine ⟨iff_of_true ⟨described, rfl⟩ hnodup, ?_, fun error h => by cases h⟩
    rintro models h
    cases h
    refine ⟨?_, ?_, rfl⟩
    · rw [Models.names, htoList, map_name_describedModels]
    · rw [htoList, describedModels, List.forall₂_map_right_iff, List.forall₂_same]
      exact fun c _ => c.describedAs_described hnodup
  · obtain ⟨before, c, after, hsplit, hc, hbefore, hmem, heq⟩ := describe_of_not_nodup hnodup
    rw [heq]
    refine ⟨iff_of_false ?_ hnodup, ?_, ?_⟩
    · rintro ⟨models, h⟩
      cases h
    · rintro models h
      cases h
    rintro error h
    cases h
    exact ⟨before, c, after, hsplit, hc, hmem, hbefore, rfl, rfl⟩

end RestBindings
