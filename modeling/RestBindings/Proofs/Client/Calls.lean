import RestBindings.Proofs.Client.Arguments
import RestBindings.Proofs.Client.Requests
import RestBindings.Proofs.Sequence

/-! # What a generated function declares and sends

The function of a method is written in two places that know nothing of each other: the parameter
list, from the arguments in order, and the options of the request, from the arguments by group.  Both
are read off the same parameters here.  `Declares` says what is written for a parameter in the
parameter list, `partOf` which part of the request forwards it, and `requestOf` is the request that
these parts make, of which the function is the line (`Sends`).  The parts share the parameters of the
caller out among them (`carried_perm`), so what is declared is forwarded once, and nothing else is.
-/
namespace RestBindings
namespace Client

theorem routeOf_eq_ok_iff {m : Model} {method : Method} {route : Route} :
    routeOf m method = .ok route ↔ method.firstRoute? = some route := by
  rw [routeOf]
  split
  next first h => simp [h]
  next h => simp [h]

namespace Fetch

open Code (Form Object Lambda)

/-! ## The parameter list -/

/-- What may be written for a parameter in a parameter list: its variable and its type, with a mark
where it may be left out. -/
def Declares (p : Param) (text : String) : Prop :=
  text = variableOf p ++ ": " ++ scriptType p.type ∨
  text = variableOf p ++ ": " ++ scriptType p.type ++ " | undefined" ∨
  text = variableOf p ++ "?: " ++ scriptType p.type

theorem declares_formal (names : List String) (p : Param) (requiredFollows : Bool) :
    Declares p (formal (argumentOf names p) requiredFollows) := by
  rw [formal, param_argumentOf, name_argumentOf]
  split
  · exact .inl rfl
  · split
    · exact .inr (.inl rfl)
    · exact .inr (.inr rfl)

theorem forall₂_declares_formals (names : List String) (params : List Param) :
    List.Forall₂ Declares params (formals (params.map (argumentOf names))) := by
  induction params with
  | nil => exact .nil
  | cons p rest ih => exact .cons (declares_formal names p _) ih

/-! ## The parts of a request -/

/-- The part for what a source carries; the query takes all that no other part does. -/
def Part.ofSource : Option Source → Part
  | some .path => .path
  | some .header => .headers
  | some .body | some .form => .body
  | _ => .query

/-- The tests by which a request groups its arguments are those for its parts. -/
theorem Part.tests_ofSource (source : Option Source) :
    (source == some .path) = decide (ofSource source = .path) ∧
    (source == some .header) = decide (ofSource source = .headers) ∧
    (source == some .body || source == some .form) = decide (ofSource source = .body) ∧
    (!(source == some .path || source == some .header || source == some .body
      || source == some .form)) = decide (ofSource source = .query) := by
  cases source with
  | none => decide
  | some s => cases s <;> decide

/-- The part of the request that forwards a parameter of a method: the path if the parameter has no
source and identifies an instance, and else the part of its source. -/
def partOf (m : Model) (method : Method) (p : Param) : Part :=
  if p.source = none ∧ method.isStatic = false ∧ p.arg ∈ (pathParams m).map Param.arg then .path
  else Part.ofSource p.source

/-- The parameters of the caller that a part forwards, in order. -/
def carried (m : Model) (method : Method) (part : Part) : List Param :=
  (callerParams method).filter fun p => partOf m method p = part

/-- A parameter in a request: its variable, under its own name. -/
def entryOf (p : Param) : String × String := (p.arg, variableOf p)

/-- What a part sends for its parameters: nothing for none, the variable of one that is the body, and
any others by name. -/
def sentOf : List Param → Option Sent
  | [] => none
  | [p] => some (if p.source = some .body then .whole (variableOf p) else .named [entryOf p])
  | params => some (.named (params.map entryOf))

/-- **The request of a method** at a route. -/
def requestOf (m : Model) (method : Method) (route : Route) : Request where
  verb := route.verb
  url := actionPath m method route
  parts := Part.all.flatMap fun part =>
    (sentOf (carried m method part)).toList.map fun sent => (part, sent)

/-- A part forwards the parameters that belong to it, and none of the others. -/
theorem count_carried (m : Model) (method : Method) (part : Part) (p : Param) :
    (carried m method part).count p =
      if partOf m method p = part then (callerParams method).count p else 0 := by
  by_cases h : partOf m method p = part
  · rw [if_pos h]
    exact List.count_filter (by simpa using h)
  · rw [if_neg h, List.count_eq_zero]
    intro hmem
    exact h (of_decide_eq_true (List.mem_filter.mp hmem).2)

/-- **Every parameter of the caller is forwarded in one part.** -/
theorem carried_perm (m : Model) (method : Method) :
    (carried m method .path ++ carried m method .query ++ carried m method .headers
      ++ carried m method .body).Perm (callerParams method) := by
  refine List.perm_iff_count.mpr fun p => ?_
  simp only [List.count_append, count_carried]
  cases partOf m method p <;> simp

/-- **What a part sends**: nothing, one variable as the body, or all of its variables by name. -/
theorem sentOf_cases (params : List Param) :
    (params = [] ∧ sentOf params = none) ∨
    (∃ p, params = [p] ∧ p.source = some .body ∧ sentOf params = some (.whole (variableOf p))) ∨
    (params ≠ [] ∧ sentOf params = some (.named (params.map entryOf))) := by
  match params with
  | [] => exact .inl ⟨rfl, rfl⟩
  | [p] =>
    by_cases hbody : p.source = some .body
    · exact .inr (.inl ⟨p, rfl, hbody, by rw [sentOf, if_pos hbody]⟩)
    · exact .inr (.inr ⟨List.cons_ne_nil _ _, by rw [sentOf, if_neg hbody]; rfl⟩)
  | p :: q :: rest => exact .inr (.inr ⟨List.cons_ne_nil _ _, rfl⟩)

/-- A part sends the variables of its parameters. -/
theorem values_sentOf (params : List Param) :
    (sentOf params).toList.flatMap Sent.values = params.map variableOf := by
  obtain ⟨rfl, hsent⟩ | ⟨p, rfl, -, hsent⟩ | ⟨-, hsent⟩ := sentOf_cases params
  · rw [hsent]
    rfl
  · rw [hsent]
    rfl
  · simp [hsent, Sent.values, entryOf]

/-- Where no parameter is the body, a part sends them all by name. -/
theorem sentOf_of_not_body {params : List Param} (hne : params ≠ [])
    (h : ∀ p ∈ params, p.source ≠ some .body) :
    sentOf params = some (.named (params.map entryOf)) := by
  obtain ⟨rfl, -⟩ | ⟨p, rfl, hbody, -⟩ | ⟨-, hsent⟩ := sentOf_cases params
  · exact absurd rfl hne
  · exact absurd hbody (h p (List.mem_singleton_self p))
  · exact hsent

section Requests

variable (m : Model) (method : Method) (route : Route)

/-- What stands in a part of the request is what the part sends. -/
theorem flatMap_parts_requestOf {α : Type} (part : Part) (f : Sent → List α) :
    ((requestOf m method route).parts.flatMap fun o => if o.1 = part then f o.2 else []) =
      (sentOf (carried m method part)).toList.flatMap f := by
  have hpart (other : Part) (sent : List Sent) :
      (sent.map fun s => (other, s)).flatMap (fun o => if o.1 = part then f o.2 else []) =
        if other = part then sent.flatMap f else [] := by
    rw [List.flatMap_map]
    by_cases h : other = part <;> simp [h]
  rw [requestOf, List.flatMap_assoc]
  simp only [hpart]
  cases part <;> simp [Part.all]

/-- The variables in a part of the request are those of the parameters that it carries. -/
theorem values_requestOf (part : Part) :
    (requestOf m method route).values part = (carried m method part).map variableOf := by
  rw [Request.values, flatMap_parts_requestOf, values_sentOf]

/-- **The variables of a request** are those of the caller's parameters, each as often. -/
theorem values_requestOf_perm :
    ((requestOf m method route).parts.flatMap fun o => o.2.values).Perm
      ((callerParams method).map variableOf) := by
  have hpart (part : Part) :
      (((sentOf (carried m method part)).toList.map fun sent => (part, sent)).flatMap
        fun o => o.2.values) = (carried m method part).map variableOf := by
    rw [List.flatMap_map]
    exact values_sentOf _
  have hall : ((requestOf m method route).parts.flatMap fun o => o.2.values) =
      (carried m method .path ++ carried m method .query ++ carried m method .headers
        ++ carried m method .body).map variableOf := by
    rw [requestOf, List.flatMap_assoc]
    simp only [hpart]
    simp [Part.all]
  rw [hall]
  exact (carried_perm m method).map variableOf

/-- A part is left out exactly when it forwards nothing. -/
theorem map_fst_parts_requestOf :
    (requestOf m method route).parts.map Prod.fst =
      Part.all.filter fun part => carried m method part ≠ [] := by
  have hpart (part : Part) :
      ((sentOf (carried m method part)).toList.map fun sent => (part, sent)).map Prod.fst =
        if carried m method part ≠ [] then [part] else [] := by
    obtain ⟨h, hsent⟩ | ⟨p, h, -, hsent⟩ | ⟨h, hsent⟩ := sentOf_cases (carried m method part)
    · simp [h, sentOf]
    · rw [hsent, if_pos (h ▸ List.cons_ne_nil p [])]
      rfl
    · rw [hsent, if_pos h]
      rfl
  rw [requestOf, List.map_flatMap]
  simp only [hpart, Part.all, List.flatMap_cons, List.flatMap_nil, List.filter_cons,
    List.filter_nil, decide_eq_true_eq, List.append_nil]
  split <;> split <;> split <;> split <;> rfl

/-- A parameter that is the body stands in the body. -/
theorem source_ne_body_of_mem_carried {part : Part} (hpart : part ≠ .body) :
    ∀ p ∈ carried m method part, p.source ≠ some .body := by
  intro p hp hbody
  have h := of_decide_eq_true (List.mem_filter.mp hp).2
  rw [partOf, hbody, if_neg (by simp)] at h
  exact hpart h.symm

/-- Outside the body, the request has the variables of a part under the names of their parameters. -/
theorem entries_requestOf {part : Part} (hpart : part ≠ .body) :
    (requestOf m method route).entries part = (carried m method part).map entryOf := by
  rw [Request.entries, flatMap_parts_requestOf]
  by_cases hne : carried m method part = []
  · rw [hne]
    rfl
  · rw [sentOf_of_not_body hne (source_ne_body_of_mem_carried m method hpart)]
    simp [Sent.entries]

/-- Whatever a part has under a name is the variable of a parameter of this name. -/
theorem exists_of_mem_entries_requestOf {part : Part} {entry : String × String}
    (h : entry ∈ (requestOf m method route).entries part) :
    ∃ p ∈ carried m method part, entryOf p = entry := by
  rw [Request.entries, flatMap_parts_requestOf] at h
  obtain ⟨-, hsent⟩ | ⟨p, -, -, hsent⟩ | ⟨-, hsent⟩ := sentOf_cases (carried m method part)
  · rw [hsent] at h
    cases h
  · rw [hsent] at h
    cases h
  · rw [hsent] at h
    simpa [Sent.entries] using h

/-- The variables of a request are names. -/
theorem matches_name_of_mem_requestOf :
    ∀ o ∈ (requestOf m method route).parts, ∀ v ∈ o.2.values, Form.name.Matches v := by
  intro o ho v hv
  have hmem := (values_requestOf_perm m method route).mem_iff.mp (List.mem_flatMap.mpr ⟨o, ho, hv⟩)
  obtain ⟨p, -, rfl⟩ := List.mem_map.mp hmem
  exact matches_name_safe p.arg

end Requests

/-! ## The options of a request, by the parameters they forward -/

theorem source_argumentOf (names : List String) (p : Param) :
    (argumentOf names p).source =
      if p.source = none ∧ p.arg ∈ names then some .path else p.source := by
  cases h : p.source <;> simp [Argument.source, argumentOf, h]

theorem mem_identifying_iff {m : Model} {method : Method} {arg : String} :
    arg ∈ identifying m method ↔
      method.isStatic = false ∧ arg ∈ (pathParams m).map Param.arg := by
  cases h : method.isStatic <;> simp [identifying, h]

/-- The argument of a parameter is sent in the part that forwards the parameter. -/
theorem partOf_eq_ofSource (m : Model) (method : Method) (p : Param) :
    partOf m method p = Part.ofSource (argumentOf (identifying m method) p).source := by
  rw [partOf, source_argumentOf]
  simp only [mem_identifying_iff]
  split <;> rfl

/-- Arguments as an object on one line. -/
theorem inline_map_argumentOf (names : List String) (params : List Param) :
    Object.inline ((params.map (argumentOf names)).map Argument.property) =
      (Sent.named (params.map entryOf)).text := by
  have hproperties : Object.inlineProperties ((params.map (argumentOf names)).map Argument.property) =
      (params.map entryOf).map entryText := by
    induction params with
    | nil => rfl
    | cons p rest ih => exact congrArg (entryText (entryOf p) :: ·) ih
  rw [inline_eq_braced, hproperties]
  · rfl
  · simp [Argument.property]

/-- An argument without a source of its own is never the body. -/
theorem source_argumentOf_eq_body_iff (names : List String) (p : Param) :
    (argumentOf names p).source = some .body ↔ p.source = some .body := by
  rw [source_argumentOf]
  split
  next h => simp [h.1]
  next => rfl

/-- The body that is written for parameters is what a part sends for them. -/
theorem body?_map_argumentOf (names : List String) (params : List Param) :
    body? (params.map (argumentOf names)) = (sentOf params).map Sent.text := by
  match params with
  | [] => rfl
  | [p] =>
    simp only [List.map_singleton, body?, sentOf, beq_iff_eq, source_argumentOf_eq_body_iff]
    split
    · rfl
    · exact congrArg some (inline_map_argumentOf names [p])
  | p :: q :: rest => exact congrArg some (inline_map_argumentOf names (p :: q :: rest))

/-- The group that is written for parameters is what a part sends for them, if none is the body. -/
theorem inlineProperties_group (name : String) (names : List String) {params : List Param}
    (h : ∀ p ∈ params, p.source ≠ some .body) :
    Object.inlineProperties (group name (params.map (argumentOf names))) =
      (sentOf params).toList.map fun sent => name ++ ": " ++ sent.text := by
  by_cases hne : params = []
  · subst hne
    rfl
  · have hnonempty : (params.map (argumentOf names)).isEmpty = false := by simp [hne]
    rw [sentOf_of_not_body hne h, group, if_neg (by simp [hnonempty]), Object.inlineProperties,
      Object.inlineValue?_object, inline_map_argumentOf]
    rfl

/-- All options have a form on one line. -/
theorem isSome_inlineValue?_options (args : List Argument) :
    ∀ p ∈ options args, (Object.inlineValue? p.2).isSome = true := by
  have hgroup (name : String) (args : List Argument) :
      ∀ p ∈ group name args, (Object.inlineValue? p.2).isSome = true := by
    intro p hp
    rw [group] at hp
    split at hp
    · cases hp
    · rw [List.mem_singleton.mp hp, Object.inlineValue?_object]
      rfl
  simp only [options, List.forall_mem_append]
  refine ⟨⟨⟨hgroup _ _, hgroup _ _⟩, hgroup _ _⟩, fun p hp => ?_⟩
  obtain ⟨code, -, rfl⟩ := List.mem_map.mp hp
  rfl

theorem inlineProperties_body (names : List String) (params : List Param) :
    Object.inlineProperties
        ((body? (params.map (argumentOf names))).toList.map fun code => ("body", .code code)) =
      (sentOf params).toList.map fun sent => "body" ++ ": " ++ sent.text := by
  rw [body?_map_argumentOf]
  cases sentOf params <;> rfl

section Groups

variable (m : Model) (method : Method)

/-- The arguments of a method that pass a test are those of the part that the test is for. -/
theorem filter_map_argumentOf {test : Option Source → Bool} {part : Part}
    (h : ∀ source, test source = decide (Part.ofSource source = part)) :
    ((callerParams method).map (argumentOf (identifying m method))).filter (fun a => test a.source) =
      (carried m method part).map (argumentOf (identifying m method)) := by
  rw [List.filter_map, carried]
  refine congrArg (List.map _) (List.filter_congr fun p _ => ?_)
  rw [partOf_eq_ofSource, ← h]
  rfl

/-- **The options of a request are its parts**, as they are written on one line. -/
theorem inline_options (route : Route) :
    Object.inline (options ((callerParams method).map (argumentOf (identifying m method)))) =
      braced ((requestOf m method route).parts.map optionText) := by
  have hpath := filter_map_argumentOf m method fun source => (Part.tests_ofSource source).1
  have hheaders := filter_map_argumentOf m method fun source => (Part.tests_ofSource source).2.1
  have hbody := filter_map_argumentOf m method fun source => (Part.tests_ofSource source).2.2.1
  have hquery := filter_map_argumentOf m method fun source => (Part.tests_ofSource source).2.2.2
  have hgroup {part : Part} (name : String) (hpart : part ≠ .body) :=
    inlineProperties_group name (identifying m method) (source_ne_body_of_mem_carried m method hpart)
  have hproperties :
      Object.inlineProperties
          (options ((callerParams method).map (argumentOf (identifying m method)))) =
        (requestOf m method route).parts.map optionText := by
    rw [options, pathArguments, queryArguments, headerArguments, bodyArguments, hpath, hquery,
      hheaders, hbody, Object.inlineProperties_append, Object.inlineProperties_append,
      Object.inlineProperties_append, hgroup _ (by decide), hgroup _ (by decide),
      hgroup _ (by decide), inlineProperties_body, requestOf, List.map_flatMap]
    simp [Part.all, optionText, Part.name, Function.comp_def]
  rw [inline_eq_braced (isSome_inlineValue?_options _), hproperties]

end Groups

/-! ## The function of a method -/

/-- The function of a method at a route, with arguments. -/
def callerFunction (m : Model) (method : Method) (route : Route) (args : List Argument) : Lambda where
  isArrow := true
  params := signature args
  isAsync := true
  returns := some "Promise<any>"
  body := ["return request(" ++ Text.quote route.verb ++ ", "
    ++ Text.quote (actionPath m method route) ++ ", " ++ Object.inline (options args) ++ ");"]

theorem function_eq_ok_iff {m : Model} {method : Method} {f : Lambda} :
    function m method = .ok f ↔
      ∃ route args, method.firstRoute? = some route ∧ arguments m method = .ok args ∧
        f = callerFunction m method route args := by
  rw [function, bind_eq_ok_iff]
  simp only [bind_eq_ok_iff, routeOf_eq_ok_iff, pure, Except.pure, Except.ok.injEq]
  constructor
  · rintro ⟨route, hroute, args, hargs, rfl⟩
    exact ⟨route, args, hroute, hargs, rfl⟩
  · rintro ⟨route, args, hroute, hargs, rfl⟩
    exact ⟨route, hroute, args, hargs, rfl⟩

/-- The function sends the request: it is the line of the request, and the line is read so. -/
structure Sends (f : Lambda) (r : Request) : Prop where
  body_eq : f.body = [r.text]
  read_eq : Request.read? r.text = some r

theorem Sends.read_of_mem {f : Lambda} {r : Request} (h : Sends f r) :
    ∀ line ∈ f.body, Request.read? line = some r := by
  intro line hline
  rw [h.body_eq, List.mem_singleton] at hline
  rw [hline, h.read_eq]

/-- What is written of the parameters of the caller: a parameter list that declares them, and the
request that forwards them. -/
theorem exists_written_of_function {m : Model} {method : Method} {f : Lambda}
    (h : function m method = .ok f) :
    (∃ formals, f.params = String.intercalate ", " formals ∧
      List.Forall₂ Declares (callerParams method) formals) ∧
    ∃ route, method.firstRoute? = some route ∧ Sends f (requestOf m method route) := by
  obtain ⟨route, args, hroute, hargs, rfl⟩ := function_eq_ok_iff.mp h
  obtain ⟨-, rfl⟩ := arguments_eq_ok_iff.mp hargs
  refine ⟨⟨_, rfl, forall₂_declares_formals _ _⟩, route, hroute, ?_, ?_⟩
  · rw [callerFunction, inline_options m method route]
    rfl
  · exact Request.read?_text (matches_name_of_mem_requestOf m method route)

/-- A parameter is forwarded in one part of a request: its variable stands there and in no other
part, under the name of the parameter or as the whole body, and nothing else has that name. -/
structure ForwardedIn (r : Request) (part : Part) (p : Param) : Prop where
  values_iff : ∀ other, variableOf p ∈ r.values other ↔ other = part
  keyed : entryOf p ∈ r.entries part ∨
    (part = .body ∧ p.source = some .body ∧ (part, .whole (variableOf p)) ∈ r.parts)
  of_key : ∀ other value, (p.arg, value) ∈ r.entries other → other = part ∧ value = variableOf p

section Forwarding

variable {m : Model} {method : Method} {p : Param}

theorem mem_carried_iff {part : Part} :
    p ∈ carried m method part ↔ p ∈ callerParams method ∧ partOf m method p = part := by
  rw [carried, List.mem_filter, decide_eq_true_iff]

/-- A source that the registry declares decides. -/
theorem partOf_of_source {source : Source} (h : p.source = some source) :
    partOf m method p = Part.ofSource (some source) := by
  rw [partOf, h, if_neg (by simp)]

/-- **Every parameter of the caller is forwarded in its part**, where the variables differ. -/
theorem forwardedIn_partOf (hnodup : ((callerParams method).map variableOf).Nodup)
    (hp : p ∈ callerParams method) (route : Route) :
    ForwardedIn (requestOf m method route) (partOf m method p) p where
  values_iff other := by
    rw [values_requestOf, List.mem_map]
    constructor
    · rintro ⟨q, hq, heq⟩
      obtain ⟨hcaller, rfl⟩ := mem_carried_iff.mp hq
      rw [List.inj_on_of_nodup_map hnodup hcaller hp heq]
    · rintro rfl
      exact ⟨p, mem_carried_iff.mpr ⟨hp, rfl⟩, rfl⟩
  keyed := by
    have hmem : p ∈ carried m method (partOf m method p) := mem_carried_iff.mpr ⟨hp, rfl⟩
    obtain ⟨h, -⟩ | ⟨q, h, hbody, hsent⟩ | ⟨-, hsent⟩ :=
      sentOf_cases (carried m method (partOf m method p))
    · rw [h] at hmem
      cases hmem
    · rw [h] at hmem
      obtain rfl := List.mem_singleton.mp hmem
      refine .inr ⟨partOf_of_source hbody, hbody, ?_⟩
      refine List.mem_flatMap.mpr ⟨partOf m method p, by cases partOf m method p <;> decide, ?_⟩
      rw [hsent]
      exact List.mem_singleton_self _
    · refine .inl ?_
      rw [Request.entries, flatMap_parts_requestOf, hsent]
      simpa [Sent.entries] using ⟨p, hmem, rfl⟩
  of_key other value hvalue := by
    obtain ⟨q, hq, heq⟩ := exists_of_mem_entries_requestOf m method route hvalue
    obtain ⟨hcaller, rfl⟩ := mem_carried_iff.mp hq
    obtain ⟨hname, rfl⟩ := Prod.mk.inj heq
    rw [List.inj_on_of_nodup_map (nodup_args_callerParams method) hcaller hp hname]
    exact ⟨rfl, rfl⟩

/-- A parameter for the path stands in `path` under its name. -/
theorem forwardedIn_path (hnodup : ((callerParams method).map variableOf).Nodup)
    (hp : p ∈ callerParams method) (hpart : partOf m method p = .path) (route : Route) :
    (p.arg, variableOf p) ∈ (requestOf m method route).entries .path ∧
      ForwardedIn (requestOf m method route) .path p := by
  refine ⟨?_, hpart ▸ forwardedIn_partOf hnodup hp route⟩
  rw [entries_requestOf m method route (by decide)]
  exact List.mem_map_of_mem (mem_carried_iff.mpr ⟨hp, hpart⟩)

end Forwarding

/-- **A generated function declares and forwards the parameters of its caller**, which are the
parameters that the server does not fill, the first of each name.  Each is declared once, in order
and as a variable of its own.  What the function returns is the line of the method's request, and is
read as this request: its variables are those that are declared, each stands in its part of the
request and nowhere else, and a part that would forward nothing is left out. -/
theorem function_declares_and_forwards {m : Model} {method : Method} {f : Lambda}
    (h : function m method = .ok f) :
    (∀ p, p ∈ callerParams method ↔ callerParam? method.accepts p.arg = some p) ∧
    ((callerParams method).map Param.arg).Nodup ∧
    ((callerParams method).map variableOf).Nodup ∧
    (f.isArrow = true ∧ ∃ formals, f.params = String.intercalate ", " formals ∧
      List.Forall₂ Declares (callerParams method) formals) ∧
    (∃ route, method.firstRoute? = some route ∧ Sends f (requestOf m method route) ∧
      ((requestOf m method route).parts.flatMap fun o => o.2.values).Perm
        ((callerParams method).map variableOf) ∧
      (∀ p ∈ callerParams method,
        ForwardedIn (requestOf m method route) (partOf m method p) p) ∧
      (requestOf m method route).parts.map Prod.fst =
        Part.all.filter fun part => carried m method part ≠ []) ∧
    (carried m method .path ++ carried m method .query ++ carried m method .headers
      ++ carried m method .body).Perm (callerParams method) ∧
    ∀ p ∈ callerParams method, p.isServerSide = false := by
  obtain ⟨hparams, route, hroute, hsends⟩ := exists_written_of_function h
  obtain ⟨_, _, -, hargs, rfl⟩ := function_eq_ok_iff.mp h
  obtain ⟨hnodup, -⟩ := arguments_eq_ok_iff.mp hargs
  exact ⟨fun p => mem_callerParams_iff, nodup_args_callerParams method, hnodup, ⟨rfl, hparams⟩,
    ⟨route, hroute, hsends, values_requestOf_perm m method route,
      fun p hp => forwardedIn_partOf hnodup hp route, map_fst_parts_requestOf m method route⟩,
    carried_perm m method, fun p hp => isServerSide_of_mem_callerParams hp⟩

/-- A model that the path of a request identifies by `id`. -/
def productModel : Model := .ofClass {
  name := "Product"
  ctor := some [{ arg := "id" }]
  httpPath := "/products"
  methods := [] }

/-- A method that names the identity twice, asks the server for something, and has a parameter for
every part. -/
def updateMethod : Method where
  name := "update"
  isStatic := false
  accepts := [
    { arg := "id", required := true },
    { arg := "id", source := some .query },
    { arg := "req", source := some .req },
    { arg := "x-tenant", source := some .header },
    { arg := "data", source := some .body },
    { arg := "filter" }]
  returns := []
  routes := [⟨"PUT", "/"⟩]
  restClass := "Product"
  aliases := []
  description := none

theorem function_declares_and_forwards_update :
    ∃ f, function productModel updateMethod = .ok f ∧
      (callerParams updateMethod).map variableOf = ["id", "xTenant", "data", "filter"] ∧
      (∃ formals, f.params = String.intercalate ", " formals ∧
        List.Forall₂ Declares (callerParams updateMethod) formals) ∧
      f.body = ["return request(\"PUT\", \"/products/:id\", \x7b path: \x7b \"id\": id \x7d, "
        ++ "query: \x7b \"filter\": filter \x7d, headers: \x7b \"x-tenant\": xTenant \x7d, "
        ++ "body: data \x7d);"] ∧
      (∀ line ∈ f.body, Request.read? line =
        some (requestOf productModel updateMethod ⟨"PUT", "/"⟩)) ∧
      (requestOf productModel updateMethod ⟨"PUT", "/"⟩).parts.map Prod.fst = Part.all := by
  obtain ⟨f, hf⟩ : ∃ f, function productModel updateMethod = .ok f := ⟨_, rfl⟩
  obtain ⟨-, -, -, ⟨-, hparams⟩, ⟨route, hroute, hsends, -, -, hparts⟩, -⟩ :=
    function_declares_and_forwards hf
  obtain rfl := Option.some.inj hroute
  have htext : (requestOf productModel updateMethod ⟨"PUT", "/"⟩).text =
      "return request(\"PUT\", \"/products/:id\", \x7b path: \x7b \"id\": id \x7d, "
        ++ "query: \x7b \"filter\": filter \x7d, headers: \x7b \"x-tenant\": xTenant \x7d, "
        ++ "body: data \x7d);" := by decide
  refine ⟨f, hf, by decide, hparams, htext ▸ hsends.body_eq, hsends.read_of_mem, ?_⟩
  rw [hparts]
  decide

end Fetch
end Client
end RestBindings
