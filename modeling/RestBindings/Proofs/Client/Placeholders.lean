import Mathlib.Data.List.TakeWhile
import RestBindings.Proofs.Client.InstancePath
import RestBindings.Proofs.Client.Path
import RestBindings.Registry.Lowering

/-! # How placeholders are read back

A path is written by one side and read by another.  The template writes a placeholder as a colon and
the name of a parameter, whatever its characters are; the request helper (`requestBody`) finds
placeholders with the pattern `:(\w+)`, a colon and the longest run of ASCII letters, digits and
underscores after it (`pieces`).  It looks a value up under the name that it found, and the request
has the value under the name of the parameter.

A slash is no character of such a name, so the helper reads each segment of a path by itself
(`pieces_append`), and what the constructor of a model contributes to a path is read apart from what
stands before and after it.  There the helper finds the names of the parameters, in order, exactly
when these have no other characters (`ctor_placeholders_iff`).  The loader refuses blank names only,
and a parameter such as `item-id` is looked up under `item`, where the request has nothing
(`item_id_cut_short`).
-/
namespace RestBindings
namespace Client
namespace Fetch

open Code (Object Expr)

/-! ## The pattern of the helper -/

/-- A character that the pattern takes after a colon. -/
def isNameChar (c : Char) : Bool := c.isAlphanum || c == '_'

/-- The pattern takes all the characters after a colon. -/
def isName (name : List Char) : Bool := !name.isEmpty && name.all isNameChar

/-- A piece of a path. -/
inductive Piece where
  /-- A character that stands for itself. -/
  | char (c : Char)
  /-- A colon and a name. -/
  | placeholder (name : List Char)
deriving DecidableEq, Repr

/-- The pieces of what remains of a path; the first `skip` characters belong to the piece before. -/
def piecesFrom : (skip : Nat) → List Char → List Piece
  | _, [] => []
  | skip + 1, _ :: rest => piecesFrom skip rest
  | 0, c :: rest =>
    let name := rest.takeWhile isNameChar
    if c = ':' ∧ name ≠ [] then .placeholder name :: piecesFrom name.length rest
    else .char c :: piecesFrom 0 rest

/-- **The pieces of a path**, as the pattern divides it from left to right. -/
def pieces (path : List Char) : List Piece := piecesFrom 0 path

/-- The name of a placeholder. -/
def Piece.name? : Piece → Option (List Char)
  | char _ => none
  | placeholder name => some name

/-- What a piece becomes where each name has a value. -/
def Piece.filled (value : List Char → List Char) : Piece → List Char
  | char c => [c]
  | placeholder name => value name

/-- The names found in a path, in order. -/
def foundNames (path : List Char) : List (List Char) := (pieces path).filterMap Piece.name?

/-- The path with a value in place of each placeholder. -/
def fill (value : List Char → List Char) (path : List Char) : List Char :=
  (pieces path).flatMap (Piece.filled value)

theorem piecesFrom_zero_cons (c : Char) (rest : List Char) :
    piecesFrom 0 (c :: rest) =
      if c = ':' ∧ rest.takeWhile isNameChar ≠ [] then
        .placeholder (rest.takeWhile isNameChar)
          :: piecesFrom (rest.takeWhile isNameChar).length rest
      else .char c :: piecesFrom 0 rest := by
  rw [piecesFrom]

theorem piecesFrom_length_append (name rest : List Char) :
    piecesFrom name.length (name ++ rest) = piecesFrom 0 rest := by
  induction name with
  | nil => rfl
  | cons c name ih => rw [List.cons_append, List.length_cons, piecesFrom, ih]

theorem pieces_cons_of_ne {c : Char} (h : c ≠ ':') (rest : List Char) :
    pieces (c :: rest) = .char c :: pieces rest := by
  rw [pieces, piecesFrom_zero_cons, if_neg (by simp [h])]
  rfl

/-- What is written as a placeholder is read as one, if its name has no other characters. -/
theorem pieces_placeholder {name : List Char} (h : isName name = true) :
    pieces (':' :: name) = [.placeholder name] := by
  rw [isName, Bool.and_eq_true, List.all_eq_true] at h
  have hname : name ≠ [] := by simpa using h.1
  have hrun : name.takeWhile isNameChar = name := List.takeWhile_eq_self_iff.mpr h.2
  have hrest := piecesFrom_length_append name []
  rw [List.append_nil] at hrest
  rw [pieces, piecesFrom_zero_cons, hrun, if_pos ⟨rfl, hname⟩, hrest]
  rfl

/-- Whatever is found is a name. -/
theorem isName_of_placeholder_mem {path name : List Char} {skip : Nat}
    (h : .placeholder name ∈ piecesFrom skip path) : isName name = true := by
  induction path generalizing skip with
  | nil => cases skip <;> cases h
  | cons c rest ih =>
    cases skip with
    | succ skip => exact ih h
    | zero =>
      rw [piecesFrom_zero_cons] at h
      split at h
      next hname =>
        rcases List.mem_cons.mp h with heq | hmore
        · rw [Piece.placeholder.inj heq, isName, Bool.and_eq_true]
          exact ⟨by simpa using hname.2, List.all_takeWhile⟩
        · exact ih hmore
      next =>
        rcases List.mem_cons.mp h with heq | hmore
        · cases heq
        · exact ih hmore

theorem isName_of_mem_foundNames {path name : List Char} (h : name ∈ foundNames path) :
    isName name = true := by
  obtain ⟨piece, hpiece, hname⟩ := List.mem_filterMap.mp h
  cases piece with
  | char c => cases hname
  | placeholder found =>
    obtain rfl := Option.some.inj hname
    exact isName_of_placeholder_mem hpiece

/-! ## Paths in parts -/

section Append

variable {after : List Char} (hafter : ∀ c ∈ after.head?, isNameChar c = false)
include hafter

/-- A name ends before a character that it cannot have. -/
theorem takeWhile_isNameChar_append (before : List Char) :
    (before ++ after).takeWhile isNameChar = before.takeWhile isNameChar := by
  induction before with
  | nil =>
    cases after with
    | nil => rfl
    | cons c after => exact List.takeWhile_cons_of_neg (by simpa using hafter c rfl)
  | cons c before ih => rw [List.cons_append, List.takeWhile_cons, ih, List.takeWhile_cons]

theorem piecesFrom_append {before : List Char} {skip : Nat} (hskip : skip ≤ before.length) :
    piecesFrom skip (before ++ after) = piecesFrom skip before ++ pieces after := by
  induction before generalizing skip with
  | nil =>
    obtain rfl := Nat.le_zero.mp hskip
    rfl
  | cons c rest ih =>
    cases skip with
    | succ skip => exact ih (Nat.le_of_succ_le_succ hskip)
    | zero =>
      have hname : (rest.takeWhile isNameChar).length ≤ rest.length :=
        (List.takeWhile_prefix _).length_le
      rw [List.cons_append, piecesFrom_zero_cons, piecesFrom_zero_cons,
        takeWhile_isNameChar_append hafter, ih hname, ih (Nat.zero_le _)]
      split <;> rfl

/-- **A path is read in parts** that are cut before a character which is none of a name. -/
theorem pieces_append (before : List Char) :
    pieces (before ++ after) = pieces before ++ pieces after :=
  piecesFrom_append hafter (Nat.zero_le _)

theorem foundNames_append (before : List Char) :
    foundNames (before ++ after) = foundNames before ++ foundNames after := by
  rw [foundNames, pieces_append hafter, List.filterMap_append, foundNames, foundNames]

theorem fill_append (value : List Char → List Char) (before : List Char) :
    fill value (before ++ after) = fill value before ++ fill value after := by
  rw [fill, pieces_append hafter, List.flatMap_append, fill, fill]

end Append

/-- What segments contribute to a path. -/
def slashed (segments : List (List Char)) : List Char := segments.flatMap ('/' :: ·)

/-- What stands after a part of a path is nothing or starts with a slash. -/
theorem head?_slashed {segments : List (List Char)} :
    ∀ c ∈ (slashed segments).head?, isNameChar c = false := by
  cases segments with
  | nil => exact nofun
  | cons s rest =>
    intro c hc
    obtain rfl := Option.some.inj hc
    decide

/-- A path that is a slash if nothing contributes to it. -/
def rooted (path : List Char) : List Char := if path = [] then ['/'] else path

theorem pathChars_eq_rooted (segments : List (List Char)) :
    pathChars segments = rooted (slashed segments) := by
  match segments with
  | [] => rfl
  | [s] => simp [pathChars, slashed, rooted]
  | s :: t :: rest =>
    rw [pathChars, pathChars_eq_rooted (t :: rest)]
    simp [slashed, rooted]

theorem slashed_append (first second : List (List Char)) :
    slashed (first ++ second) = slashed first ++ slashed second :=
  List.flatMap_append

theorem foundNames_rooted (path : List Char) : foundNames (rooted path) = foundNames path := by
  rw [rooted]
  split
  next h => rw [h]; decide
  next => rfl

/-! ## What the constructor contributes -/

/-- The part of the path of a method that the path of the class contributes. -/
def classPart (m : Model) : List Char := slashed (segments m.httpPath)

/-- The part that the constructor of the model contributes. -/
def ctorPart (m : Model) : List Char := slashed ((placeholders m).flatMap segments)

/-- The part that the route contributes. -/
def routePart (route : Route) : List Char := slashed (segments route.path)

/-- **The path of a prototype method**: what the path of the class contributes, then what the
constructor does, then what the route does. -/
theorem toList_actionPath {m : Model} {method : Method} (hproto : method.isStatic = false)
    (route : Route) :
    (actionPath m method route).toList =
      rooted (classPart m ++ (ctorPart m ++ routePart route)) := by
  rw [actionPath, hproto, joinPath, String.toList_ofList, pathChars_eq_rooted]
  simp only [classPart, ctorPart, routePart, ← slashed_append, List.flatMap_cons,
    List.flatMap_append, List.flatMap_nil, List.cons_append, List.append_nil, Bool.false_eq_true,
    if_false]

/-- No name has a slash. -/
theorem slash_not_mem_of_isName {name : List Char} (h : isName name = true) : '/' ∉ name := by
  rw [isName, Bool.and_eq_true, List.all_eq_true] at h
  intro hmem
  exact absurd (h.2 '/' hmem) (by decide)

/-- A constructor whose parameters have names contributes a placeholder for each of them. -/
theorem pieces_ctorPart {m : Model} (h : ∀ p ∈ pathParams m, isName p.arg.toList = true) :
    pieces (ctorPart m) =
      (pathParams m).flatMap fun p => [.char '/', .placeholder p.arg.toList] := by
  rw [ctorPart, placeholders]
  generalize pathParams m = params at h
  induction params with
  | nil => rfl
  | cons p rest ih =>
    rw [List.forall_mem_cons] at h
    have hfirst : pieces ('/' :: ':' :: p.arg.toList) = [.char '/', .placeholder p.arg.toList] := by
      rw [pieces_cons_of_ne (by decide), pieces_placeholder h.1]
    rw [List.flatMap_cons, ← ih h.2, ← hfirst, ← pieces_append head?_slashed, List.map_cons,
      List.flatMap_cons, segments_placeholder (slash_not_mem_of_isName h.1)]
    rfl

/-- The `path` of the options of a request has a value for a name. -/
def PathValue (options : Object) (arg : String) (value : Expr) : Prop :=
  ∃ properties, ("path", .object properties) ∈ options ∧ (Text.quote arg, value) ∈ properties

theorem mem_group_iff {name key : String} {args : List Argument} {value : Expr} :
    (key, value) ∈ group name args ↔
      args ≠ [] ∧ key = name ∧ value = .object (args.map Argument.property) := by
  rw [group]
  cases args <;> simp

/-- The path of a request has the variables of the arguments that it carries, each under its full
name. -/
theorem pathValue_options_iff {args : List Argument} {arg : String} {value : Expr} :
    PathValue (options args) arg value ↔
      ∃ a ∈ args, a.source = some .path ∧ a.param.arg = arg ∧ value = .code a.name := by
  have hpath (properties : Object) : ("path", .object properties) ∈ options args ↔
      pathArguments args ≠ [] ∧ properties = (pathArguments args).map Argument.property := by
    simp only [options, List.mem_append, mem_group_iff, List.mem_map, Prod.mk.injEq,
      Expr.object.injEq, String.reduceEq, reduceCtorEq, false_and, and_false, exists_false, or_false,
      true_and]
  simp only [PathValue, hpath]
  constructor
  · rintro ⟨_, ⟨-, rfl⟩, hvalue⟩
    obtain ⟨a, ha, hproperty⟩ := List.mem_map.mp hvalue
    obtain ⟨hmem, hsource⟩ := List.mem_filter.mp ha
    obtain ⟨hkey, hvalue⟩ := Prod.mk.inj hproperty
    exact ⟨a, hmem, eq_of_beq hsource, Text.quote_injective hkey, hvalue.symm⟩
  · rintro ⟨a, hmem, hsource, rfl, rfl⟩
    have ha : a ∈ pathArguments args := List.mem_filter.mpr ⟨hmem, beq_iff_eq.mpr hsource⟩
    exact ⟨_, ⟨List.ne_nil_of_mem ha, rfl⟩, List.mem_map_of_mem ha⟩

/-- **When the placeholders of a constructor are read back.**  The path of a prototype method has a
part that the constructor of its model contributes, and the helper reads this part by itself.  The
names that it finds there are those of the parameters that identify an instance, in order, exactly
when each of them consists of ASCII letters, digits and underscores.  Then each placeholder is
replaced by the value under the full name of its parameter, which is where a request has the variable
of an argument, in its options and in the line that the function of the method has for it. -/
theorem ctor_placeholders_iff {m : Model} {method : Method} (hproto : method.isStatic = false)
    (route : Route) :
    (actionPath m method route).toList =
      rooted (classPart m ++ (ctorPart m ++ routePart route)) ∧
    foundNames (actionPath m method route).toList =
      foundNames (classPart m) ++ (foundNames (ctorPart m) ++ foundNames (routePart route)) ∧
    (foundNames (ctorPart m) = (pathParams m).map (·.arg.toList) ↔
      ∀ p ∈ pathParams m, isName p.arg.toList = true) ∧
    ((∀ p ∈ pathParams m, isName p.arg.toList = true) →
      ∀ value, fill value (classPart m ++ (ctorPart m ++ routePart route)) =
        fill value (classPart m) ++ (((pathParams m).flatMap fun p => '/' :: value p.arg.toList)
          ++ fill value (routePart route))) ∧
    (∀ (args : List Argument) (arg : String) (value : Expr), PathValue (options args) arg value ↔
      ∃ a ∈ args, a.source = some .path ∧ a.param.arg = arg ∧ value = .code a.name) ∧
    ∀ f, function m method = .ok f → method.firstRoute? = some route →
      Sends f (requestOf m method route) ∧
      ∀ arg value, (arg, value) ∈ (requestOf m method route).entries .path ↔
        ∃ p ∈ callerParams method, partOf m method p = .path ∧ p.arg = arg ∧ variableOf p = value := by
  have hroute : ∀ c ∈ (routePart route).head?, isNameChar c = false := head?_slashed
  have hctor : ∀ c ∈ (ctorPart m ++ routePart route).head?, isNameChar c = false := by
    rw [ctorPart, routePart, ← slashed_append]
    exact head?_slashed
  refine ⟨toList_actionPath hproto route, ?_, ⟨?_, ?_⟩, ?_, fun args arg value =>
    pathValue_options_iff, fun f hf hfirst => ⟨?_, fun arg value => ?_⟩⟩
  · rw [toList_actionPath hproto, foundNames_rooted, foundNames_append hctor,
      foundNames_append hroute]
  · intro hnames p hp
    have hfound : p.arg.toList ∈ foundNames (ctorPart m) := hnames ▸ List.mem_map_of_mem hp
    exact isName_of_mem_foundNames hfound
  · intro h
    rw [foundNames, pieces_ctorPart h, List.filterMap_flatMap, List.map_eq_flatMap]
    rfl
  · intro h value
    have hfilled : fill value (ctorPart m) =
        (pathParams m).flatMap fun p => '/' :: value p.arg.toList := by
      rw [fill, pieces_ctorPart h, List.flatMap_assoc]
      simp [Piece.filled]
    rw [fill_append hctor, fill_append hroute, hfilled]
  · obtain ⟨-, first, hsome, hsends⟩ := exists_written_of_function hf
    rwa [Option.some.inj (hfirst.symm.trans hsome)]
  · have hpath : Part.path ≠ .body := by decide
    simp only [entries_requestOf m method route hpath, List.mem_map, mem_carried_iff, entryOf,
      Prod.mk.injEq, and_assoc]

theorem renew_path_read_back :
    (cardMethod "renew" "Card").isStatic = false ∧
    foundNames (actionPath card (cardMethod "renew" "Card") ⟨"POST", "/renew"⟩).toList =
      ["number".toList] ∧
    fill (fun name => '<' :: name ++ ['>']) "/cards/:number/renew".toList =
      "/cards/<number>/renew".toList := by
  have hname : ∀ p ∈ pathParams card, isName p.arg.toList = true := by decide
  have hproto : (cardMethod "renew" "Card").isStatic = false := rfl
  obtain ⟨-, hfound, hnames, hfill, -⟩ :=
    ctor_placeholders_iff (m := card) hproto ⟨"POST", "/renew"⟩
  rw [hnames.mpr hname] at hfound
  exact ⟨hproto, hfound, hfill hname _⟩

/-- A method that is called on an item. -/
def shipMethod : Method where
  name := "ship"
  isStatic := false
  accepts := []
  returns := []
  routes := [⟨"POST", "/ship"⟩]
  restClass := "Item"
  aliases := []
  description := none

/-- Items, which are identified by a name with a hyphen. -/
def itemClass : RestClass where
  name := "Item"
  ctor := some [{ arg := "item-id" }]
  httpPath := "/items"
  methods := [shipMethod]

/-- A constructor that the loader accepts and whose placeholder is not read back: it has the
parameter `item-id`, the helper finds `item`, and the request has a value for the first only. -/
theorem item_id_cut_short :
    ∃ models m method args f, (describe [itemClass]).models = .ok models ∧ m ∈ models.toList ∧
      checkParams (.ctor m.name) (m.ctor.getD []) = .ok () ∧
      method ∈ m.methods ∧ method.isStatic = false ∧ arguments m method = .ok args ∧
      (pathParams m).map (·.arg.toList) = ["item-id".toList] ∧
      foundNames (ctorPart m) = ["item".toList] ∧
      PathValue (options args) "item-id" (.code "itemId") ∧
      (¬ ∃ value, PathValue (options args) "item" value) ∧
      function m method = .ok f ∧
      f.body = ["return request(\"POST\", \"/items/:item-id/ship\", "
        ++ "\x7b path: \x7b \"item-id\": itemId \x7d \x7d);"] := by
  have hnodup : (modelNames [itemClass]).Nodup := by decide
  obtain ⟨models, htoList, heq⟩ := describe_of_nodup hnodup
  have hargs : arguments (itemClass.described [itemClass])
      (shipMethod.withCtor (some [{ arg := "item-id" }])) =
        .ok [{ name := "itemId", param := { arg := "item-id" }, identifies := true }] := by rfl
  obtain ⟨f, hf⟩ : ∃ f, function (itemClass.described [itemClass])
      (shipMethod.withCtor (some [{ arg := "item-id" }])) = .ok f := ⟨_, rfl⟩
  obtain ⟨-, route, hroute, hsends⟩ := exists_written_of_function hf
  obtain rfl := Option.some.inj hroute
  have htext : (requestOf (itemClass.described [itemClass])
      (shipMethod.withCtor (some [{ arg := "item-id" }])) ⟨"POST", "/ship"⟩).text =
        "return request(\"POST\", \"/items/:item-id/ship\", "
          ++ "\x7b path: \x7b \"item-id\": itemId \x7d \x7d);" := by decide
  refine ⟨models, itemClass.described [itemClass], _, _, f, by rw [heq], ?_, by decide,
    List.mem_cons_self, rfl, hargs, by decide, by decide, ?_, ?_, hf, htext ▸ hsends.body_eq⟩
  · rw [htoList]
    exact List.mem_map_of_mem (List.mem_filter.mpr ⟨List.mem_singleton_self _, rfl⟩)
  · exact pathValue_options_iff.mpr ⟨_, List.mem_singleton_self _, rfl, rfl, rfl⟩
  · rintro ⟨value, hvalue⟩
    obtain ⟨a, ha, -, harg, -⟩ := pathValue_options_iff.mp hvalue
    obtain rfl := List.mem_singleton.mp ha
    exact absurd harg (by decide)

end Fetch
end Client
end RestBindings
