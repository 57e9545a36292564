import RestBindings.Client.Fetch
import RestBindings.Proofs.Fresh

/-! # Arguments of a function

The caller of a generated function supplies the parameters that the server does not fill, the first
of each name (`callerParams`).  `arguments` finds them in one walk over the parameters, with the
arguments so far at hand: it passes over a parameter that is filled or known and refuses one whose
variable is taken.  `argumentsFrom_cases` opens the walk once, in terms of the parameters that are
new after the arguments so far; from no arguments these are all parameters of the caller.  So a
method has arguments exactly when its caller's parameters come out as distinct variables
(`arguments_eq_ok_iff`), which is so when no two names do that the caller supplies
(`nodup_variables_iff`).
-/
namespace RestBindings
namespace Client
namespace Fetch

/-! ## The first parameter of each name -/

/-- The first parameter of each name, in order. -/
def firstOfEach (params : List Param) : List Param :=
  params.eraseDupsBy fun p q => p.arg == q.arg

@[simp] theorem firstOfEach_nil : firstOfEach [] = [] := rfl

theorem firstOfEach_cons (p : Param) (rest : List Param) :
    firstOfEach (p :: rest) = p :: firstOfEach (rest.filter (·.arg != p.arg)) := by
  rw [firstOfEach, List.eraseDupsBy_cons, firstOfEach]
  refine congrArg (p :: List.eraseDupsBy _ ·) (List.filter_congr fun q _ => ?_)
  cases h : q.arg == p.arg <;> simp [bne, h]

/-- Whatever is left after removing names is still shorter. -/
theorem length_filter_lt_cons (test : Param → Bool) (p : Param) (rest : List Param) :
    (rest.filter test).length < (p :: rest).length :=
  Nat.lt_succ_of_le (List.length_filter_le test rest)

/-- A parameter is the first of its name when a search for the name finds it. -/
theorem mem_firstOfEach_iff {params : List Param} {p : Param} :
    p ∈ firstOfEach params ↔ params.find? (·.arg == p.arg) = some p := by
  match params with
  | [] => simp
  | q :: rest =>
    rw [firstOfEach_cons, List.mem_cons, mem_firstOfEach_iff]
    by_cases hname : q.arg = p.arg
    · -- nothing of this name is left in the rest
      have hnone : (rest.filter (·.arg != q.arg)).find? (·.arg == p.arg) = none := by
        simp [← hname]
      rw [hnone, List.find?_cons_of_pos (by simp [hname])]
      simp [eq_comm]
    · have hne : p ≠ q := fun h => hname (congrArg Param.arg h.symm)
      have hsame : (rest.filter (·.arg != q.arg)).find? (·.arg == p.arg) =
          rest.find? (·.arg == p.arg) := by
        rw [List.find?_filter]
        congr 1
        funext r
        by_cases hr : r.arg = p.arg
        · simp [hr, Ne.symm hname]
        · simp [hr]
      rw [hsame, List.find?_cons_of_neg (by simpa using hname), or_iff_right hne]
termination_by params.length
decreasing_by exact length_filter_lt_cons _ q rest

theorem nodup_args_firstOfEach (params : List Param) :
    ((firstOfEach params).map Param.arg).Nodup := by
  match params with
  | [] => simp
  | p :: rest =>
    rw [firstOfEach_cons, List.map_cons, List.nodup_cons]
    refine ⟨?_, nodup_args_firstOfEach _⟩
    intro h
    obtain ⟨q, hq, hname⟩ := List.mem_map.mp h
    have hfound := List.mem_of_find?_eq_some (mem_firstOfEach_iff.mp hq)
    simp [hname] at hfound
termination_by params.length
decreasing_by exact length_filter_lt_cons _ p rest

/-! ## The walk -/

/-- The parameters among `rest` that are arguments after the arguments so far. -/
def newParams (sofar : List Argument) (rest : List Param) : List Param :=
  firstOfEach (rest.filter fun p => !(p.isServerSide || sofar.any (·.param.arg == p.arg)))

/-- The variable of a parameter. -/
def variableOf (p : Param) : String := Naming.Convention.script.param p.arg

/-- The argument of a parameter, where the path identifies an instance by some names. -/
def argumentOf (identifying : List String) (p : Param) : Argument where
  name := variableOf p
  param := p
  identifies := identifying.contains p.arg

@[simp] theorem name_argumentOf (identifying : List String) (p : Param) :
    (argumentOf identifying p).name = variableOf p := rfl

@[simp] theorem param_argumentOf (identifying : List String) (p : Param) :
    (argumentOf identifying p).param = p := rfl

theorem newParams_cons_of_known {sofar : List Argument} {p : Param}
    (h : (p.isServerSide || sofar.any (·.param.arg == p.arg)) = true) (rest : List Param) :
    newParams sofar (p :: rest) = newParams sofar rest := by
  rw [newParams, List.filter_cons_of_neg (by simp [h])]
  rfl

theorem newParams_cons_of_new {sofar : List Argument} {p : Param} {a : Argument}
    (h : ¬ (p.isServerSide || sofar.any (·.param.arg == p.arg)) = true) (ha : a.param = p)
    (rest : List Param) :
    newParams sofar (p :: rest) = p :: newParams (sofar ++ [a]) rest := by
  rw [newParams, List.filter_cons_of_pos (by simp [h]), firstOfEach_cons, List.filter_filter,
    newParams]
  refine congrArg (p :: firstOfEach ·) (List.filter_congr fun q _ => ?_)
  have hlast : [a].any (·.param.arg == q.arg) = (q.arg == p.arg) := by
    simp [ha, Bool.beq_comm]
  rw [List.any_append, hlast, bne]
  cases q.isServerSide <;> cases sofar.any (·.param.arg == q.arg) <;> simp

theorem argumentsFrom_cons_of_known {m : Model} {method : Method} {identifying : List String}
    {sofar : List Argument} {p : Param}
    (h : (p.isServerSide || sofar.any (·.param.arg == p.arg)) = true) (rest : List Param) :
    argumentsFrom m method identifying sofar (p :: rest) =
      argumentsFrom m method identifying sofar rest := by
  rw [argumentsFrom, if_pos h]

theorem argumentsFrom_cons_of_new {m : Model} {method : Method} {identifying : List String}
    {sofar : List Argument} {p : Param}
    (h : ¬ (p.isServerSide || sofar.any (·.param.arg == p.arg)) = true) (rest : List Param) :
    argumentsFrom m method identifying sofar (p :: rest) =
      match sofar.find? (·.name == variableOf p) with
      | some first => .error (.identifierConflict (variableOf p)
          (paramName m method first.param.arg) (paramName m method p.arg))
      | none =>
        argumentsFrom m method identifying (sofar ++ [argumentOf identifying p]) rest := by
  rw [argumentsFrom, if_neg h]
  rfl

/-- **What the walk can do**: take every new parameter, or stop at one whose variable is taken. -/
theorem argumentsFrom_cases (m : Model) (method : Method) (identifying : List String)
    (sofar : List Argument) (rest : List Param) :
    (Fresh (sofar.map Argument.name) ((newParams sofar rest).map variableOf) ∧
      argumentsFrom m method identifying sofar rest =
        .ok (sofar ++ (newParams sofar rest).map (argumentOf identifying))) ∨
    (¬ Fresh (sofar.map Argument.name) ((newParams sofar rest).map variableOf) ∧
      ∃ identifier first second, argumentsFrom m method identifying sofar rest =
        .error (.identifierConflict identifier first second)) := by
  induction rest generalizing sofar with
  | nil => exact .inl ⟨fresh_nil _, by simp [argumentsFrom, newParams]⟩
  | cons p rest ih =>
    by_cases hknown : (p.isServerSide || sofar.any (·.param.arg == p.arg)) = true
    · rw [argumentsFrom_cons_of_known hknown, newParams_cons_of_known hknown]
      exact ih sofar
    · rw [argumentsFrom_cons_of_new hknown,
        newParams_cons_of_new (a := argumentOf identifying p) hknown rfl, List.map_cons,
        fresh_cons_iff]
      -- `p` is new, and is an argument unless an argument before it has its variable
      cases hfind : sofar.find? (·.name == variableOf p) with
      | some first =>
        refine .inr ⟨?_, _, _, _, rfl⟩
        have hname : first.name = variableOf p := by simpa using List.find?_some hfind
        rintro ⟨hfree, -⟩
        exact hfree (hname ▸ List.mem_map_of_mem (List.mem_of_find?_eq_some hfind))
      | none =>
        have hfree : variableOf p ∉ sofar.map Argument.name := by
          intro h
          obtain ⟨a, ha, hname⟩ := List.mem_map.mp h
          exact List.find?_eq_none.mp hfind a ha (by simpa using hname)
        have hih := ih (sofar ++ [argumentOf identifying p])
        rw [List.map_append, List.map_singleton, name_argumentOf] at hih
        simpa [hfree] using hih

/-! ## The arguments of a method -/

/-- The parameters that the caller of a method supplies: those that the server does not fill, the
first of each name. -/
def callerParams (method : Method) : List Param :=
  firstOfEach (method.accepts.filter (!·.isServerSide))

/-- The names by which the path of a method identifies an instance. -/
def identifying (m : Model) (method : Method) : List String :=
  if method.isStatic then [] else (pathParams m).map Param.arg

theorem arguments_cases (m : Model) (method : Method) :
    (((callerParams method).map variableOf).Nodup ∧
      arguments m method = .ok ((callerParams method).map (argumentOf (identifying m method)))) ∨
    (¬ ((callerParams method).map variableOf).Nodup ∧
      ∃ identifier first second,
        arguments m method = .error (.identifierConflict identifier first second)) := by
  have hnew : newParams [] method.accepts = callerParams method := by
    simp [newParams, callerParams]
  have hcases := argumentsFrom_cases m method (identifying m method) [] method.accepts
  rw [hnew, List.map_nil, fresh_of_nothing_taken] at hcases
  exact hcases

/-- **The arguments of a method** are the parameters of its caller, whose variables must differ. -/
theorem arguments_eq_ok_iff {m : Model} {method : Method} {args : List Argument} :
    arguments m method = .ok args ↔
      ((callerParams method).map variableOf).Nodup ∧
        args = (callerParams method).map (argumentOf (identifying m method)) := by
  obtain ⟨hnodup, heq⟩ | ⟨hnodup, _, _, _, heq⟩ := arguments_cases m method
  · rw [heq, Except.ok.injEq, eq_comm, and_iff_right hnodup]
  · simp [heq, hnodup]

theorem nodup_args_callerParams (method : Method) :
    ((callerParams method).map Param.arg).Nodup :=
  nodup_args_firstOfEach _

/-! ## The parameter of a name that counts -/

/-- The parameter of a name that counts: the first that the server does not fill. -/
def callerParam? (params : List Param) (arg : String) : Option Param :=
  params.find? fun q => !q.isServerSide && q.arg == arg

theorem callerParam?_eq_some {params : List Param} {arg : String} {q : Param}
    (h : callerParam? params arg = some q) :
    q ∈ params ∧ q.isServerSide = false ∧ q.arg = arg := by
  have hq := List.find?_some h
  simp only [Bool.and_eq_true, Bool.not_eq_true', beq_iff_eq] at hq
  exact ⟨List.mem_of_find?_eq_some h, hq⟩

/-- The caller supplies the parameters that count. -/
theorem mem_callerParams_iff {method : Method} {p : Param} :
    p ∈ callerParams method ↔ callerParam? method.accepts p.arg = some p := by
  rw [callerParams, mem_firstOfEach_iff, List.find?_filter, callerParam?]
  simp only [Bool.decide_and, Bool.decide_eq_true]

theorem isServerSide_of_mem_callerParams {method : Method} {p : Param}
    (h : p ∈ callerParams method) : p.isServerSide = false :=
  (callerParam?_eq_some (mem_callerParams_iff.mp h)).2.1

theorem mem_callerParams_and_arg_iff {method : Method} {arg : String} {q : Param} :
    q ∈ callerParams method ∧ q.arg = arg ↔ callerParam? method.accepts arg = some q := by
  constructor
  · rintro ⟨hq, rfl⟩
    exact mem_callerParams_iff.mp hq
  · intro h
    obtain ⟨-, -, rfl⟩ := callerParam?_eq_some h
    exact ⟨mem_callerParams_iff.mpr h, rfl⟩

/-- Of a name that the caller supplies, some parameter counts. -/
theorem exists_callerParam? {params : List Param} {p : Param} (hp : p ∈ params)
    (hcaller : p.isServerSide = false) : ∃ q, callerParam? params p.arg = some q := by
  rw [← Option.isSome_iff_exists, callerParam?, List.find?_isSome]
  exact ⟨p, hp, by simp [hcaller]⟩

/-- The variables of a caller differ exactly when no two names that the caller supplies come out as
the same variable. -/
theorem nodup_variables_iff {method : Method} :
    ((callerParams method).map variableOf).Nodup ↔
      ∀ p ∈ method.accepts, ∀ q ∈ method.accepts, p.isServerSide = false → q.isServerSide = false →
        p.arg ≠ q.arg → variableOf p ≠ variableOf q := by
  constructor
  · intro hnodup p hp q hq hpcaller hqcaller hne heq
    obtain ⟨p', hp'⟩ := exists_callerParam? hp hpcaller
    obtain ⟨q', hq'⟩ := exists_callerParam? hq hqcaller
    obtain ⟨hp', hpname⟩ := mem_callerParams_and_arg_iff.mpr hp'
    obtain ⟨hq', hqname⟩ := mem_callerParams_and_arg_iff.mpr hq'
    have hsame : p' = q' := by
      refine List.inj_on_of_nodup_map hnodup hp' hq' ?_
      rw [variableOf, variableOf, hpname, hqname]
      exact heq
    exact hne (hpname ▸ hqname ▸ congrArg Param.arg hsame)
  · intro hdiffer
    refine List.Nodup.map_on ?_ (List.Nodup.of_map Param.arg (nodup_args_callerParams method))
    intro p hp q hq heq
    by_cases hname : p.arg = q.arg
    · exact List.inj_on_of_nodup_map (nodup_args_callerParams method) hp hq hname
    · obtain ⟨hpmem, hpcaller, -⟩ := callerParam?_eq_some (mem_callerParams_iff.mp hp)
      obtain ⟨hqmem, hqcaller, -⟩ := callerParam?_eq_some (mem_callerParams_iff.mp hq)
      exact absurd heq (hdiffer p hpmem q hqmem hpcaller hqcaller hname)

end Fetch
end Client
end RestBindings
