import RestBindings.Client.Types
import RestBindings.Proofs.Client.Readings
import RestBindings.Proofs.Client.Rendering
import RestBindings.Proofs.Text.LetterCase

/-! # Types of arrays

Whether a result is an array is asked twice, each time of its type as the registry writes it.  The
TypeScript client looks the type up among those it knows, and the AngularJS factory compares it with
one word.  What both recognise is said here without either: the word `array` in any letter case of
ASCII, or anything between square brackets (`IsArrayType`).  A bracket alone is no pair of brackets,
and no character above ASCII counts as a letter of the word.

An action of a factory is flagged on a line of its own.  Read off the code, the flags are those of the
methods with a result that is the whole response and an array to TypeScript (`array_types_agree`).
-/
namespace RestBindings

/-! ## How an array type is written -/

/-- A type that the registry writes for arrays. -/
inductive IsArrayType (type : String) : Prop where
  /-- The word, in any letter case. -/
  | word (h : Text.Spells type "array")
  /-- The type of the members, in brackets. -/
  | brackets (inner : List Char) (h : type.toList = '[' :: (inner ++ [']']))

/-- A text is in brackets if it starts with one and ends with one, and these are two. -/
theorem isBracketed_iff (cs : List Char) :
    (cs.head? == some '[' && cs.getLast? == some ']') = true ↔
      ∃ inner, cs = '[' :: (inner ++ [']']) := by
  rw [Bool.and_eq_true, beq_iff_eq, beq_iff_eq]
  constructor
  · rintro ⟨hhead, hlast⟩
    obtain ⟨rest, rfl⟩ := List.head?_eq_some_iff.mp hhead
    -- a text of one bracket ends with the bracket that it starts with
    obtain rfl | ⟨inner, last, rfl⟩ := List.eq_nil_or_concat rest
    · cases hlast
    · rw [List.concat_eq_append, ← List.cons_append, List.getLast?_concat,
        Option.some.injEq] at hlast
      exact ⟨inner, by rw [List.concat_eq_append, hlast]⟩
  · rintro ⟨inner, rfl⟩
    exact ⟨rfl, by rw [← List.cons_append, List.getLast?_concat]⟩

theorem isArrayType_iff (type : String) :
    IsArrayType type ↔ Text.lowerAscii type = "array" ∨
      (type.toList.head? == some '[' && type.toList.getLast? == some ']') = true := by
  have hletters : ∀ letter ∈ "array".toList, letter.isLower = true := by simp
  rw [isBracketed_iff, Text.lowerAscii_eq_iff hletters]
  constructor
  · rintro (h | ⟨inner, h⟩)
    · exact .inl h
    · exact .inr ⟨inner, h⟩
  · rintro (h | ⟨inner, h⟩)
    · exact .word h
    · exact .brackets inner h

/-- **A parameter is an array** if its type is written for arrays. -/
theorem Param.isArray_iff (p : Param) : p.isArray = true ↔ IsArrayType p.type := by
  rw [isArrayType_iff, Param.isArray, Bool.or_eq_true, beq_iff_eq]

namespace Client

open Code (Fragment Object)

/-- Of the types known by name, `array` alone is an array. -/
theorem lookup_knownTypes_eq_array_iff (name : String) :
    (knownTypes.lookup name).getD "any" = "any[]" ↔ name = "array" := by
  constructor
  · intro h
    cases hlookup : knownTypes.lookup name with
    | none =>
      rw [hlookup] at h
      exact absurd h (by decide)
    | some type =>
      rw [hlookup, Option.getD_some] at h
      have honly : ∀ entry ∈ knownTypes, entry.2 = "any[]" → entry.1 = "array" := by decide
      exact honly _ (mem_of_lookup_eq_some hlookup) h
  · rintro rfl
    decide

/-- **A type is an array in TypeScript** if it is written for arrays. -/
theorem scriptType_eq_array_iff (type : String) :
    scriptType type = "any[]" ↔ IsArrayType type := by
  rw [isArrayType_iff, scriptType]
  split
  next h => simp only [h, or_true]
  next h => rw [lookup_knownTypes_eq_array_iff, or_iff_left h]

/-- The two readings of a type agree. -/
theorem scriptType_eq_array_iff_isArray (p : Param) :
    scriptType p.type = "any[]" ↔ p.isArray = true := by
  rw [scriptType_eq_array_iff, p.isArray_iff]

/-- A method returns an array if some result is the whole response and an array in TypeScript. -/
theorem returnsArray_iff (method : Method) :
    method.returnsArray = true ↔
      ∃ r ∈ method.returns, r.root = true ∧ scriptType r.type = "any[]" := by
  rw [Method.returnsArray, List.any_eq_true]
  simp only [Bool.and_eq_true, scriptType_eq_array_iff_isArray]

/-! ## The flags of a factory -/

namespace Angular

/-- The line that flags an action. -/
def isArrayLine : Fragment → Bool
  | .line s => s == "isArray: true,"
  | _ => false

/-- The key of an action, and whether it is flagged. -/
def arrayFlag? : Fragment → Option (String × Bool)
  | .block header lines _ =>
    (Text.unquote? header.toList).map fun (key, _) => (key, lines.any isArrayLine)
  | _ => none

/-- The actions of a factory in order, each with its flag, if every property is one. -/
def arrayFlags? (factory : List Fragment) : Option (List (String × Bool)) :=
  (actionProperties factory).mapM arrayFlag?

/-- A property is no flag if its key has another first letter. -/
theorem isArrayLine_of_key {key : String} {c : Char} {rest : List Char}
    (hkey : key.toList = c :: rest) (hc : c ≠ 'i') (value : String) :
    isArrayLine (.line (key ++ ": " ++ value ++ ",")) = false := by
  rw [isArrayLine, beq_eq_false_iff_ne]
  intro hline
  have hfirst : (key ++ ": " ++ value ++ ",").toList.head? = some 'i' := by
    rw [hline]
    decide
  simp only [String.toList_append, hkey, List.cons_append, List.head?_cons,
    Option.some.injEq] at hfirst
  exact hc hfirst

theorem isArrayLine_url (path : String) :
    isArrayLine (Object.propertyFragment "url" (.code (urlCode path))) = false := by
  have hkey : "url".toList = ['u', 'r', 'l'] := by decide
  exact isArrayLine_of_key hkey (by decide) (urlCode path)

theorem isArrayLine_verb (verb : String) :
    isArrayLine (Object.propertyFragment "method" (.text verb)) = false := by
  have hkey : "method".toList = 'm' :: "ethod".toList := by decide
  exact isArrayLine_of_key hkey (by decide) (Text.quote verb)

/-- Session properties are objects, and these are written as blocks. -/
theorem any_isArrayLine_session (m : Model) (method : Method) :
    (Object.propertyFragments (sessionProperties m method)).any isArrayLine = false := by
  rw [sessionProperties]
  split
  · split
    · rfl
    · split <;> rfl
  · rfl

theorem any_isArrayLine_unwrap (isResultful : Bool) :
    (Object.propertyFragments (unwrapProperties isResultful)).any isArrayLine = false := by
  cases isResultful <;> decide

/-- The flag of an action is that of its method: nothing else writes the line. -/
theorem arrayFlag?_action (isResultful : Bool) (m : Model) (method : Method) (route : Route)
    (key : String) :
    arrayFlag? (Object.propertyFragment (Text.quote key)
        (.object (action isResultful m method route))) = some (key, method.returnsArray) := by
  have hflag : (Object.propertyFragments
      (if method.returnsArray then [("isArray", .code "true")] else [])).any isArrayLine =
        method.returnsArray := by
    cases method.returnsArray <;> decide
  rw [Object.propertyFragment, arrayFlag?, String.toList_append, Text.unquote?_quote, action,
    propertyFragments_eq_map]
  simp only [List.map_append, ← propertyFragments_eq_map, List.any_append, any_isArrayLine_session,
    any_isArrayLine_unwrap, hflag]
  simp only [Object.propertyFragments, List.any_cons, List.any_nil, isArrayLine_url,
    isArrayLine_verb, Bool.false_or, Bool.or_false, Option.map_some]

theorem arrayFlag?_getCurrentAction (isResultful : Bool) (m : Model) :
    arrayFlag? (Object.propertyFragment (Text.quote "getCurrent")
        (.object (getCurrentAction isResultful m))) = some ("getCurrent", false) := by
  rw [Object.propertyFragment, arrayFlag?, String.toList_append, Text.unquote?_quote,
    getCurrentAction, propertyFragments_eq_map]
  simp only [List.map_append, ← propertyFragments_eq_map, List.any_append, any_isArrayLine_unwrap]
  simp only [Object.propertyFragments, List.any_cons, isArrayLine_url, isArrayLine_verb]
  rfl

/-- The flags of a factory: those of the methods, and none for the action it adds. -/
theorem arrayFlags?_factory {context : Context} {binding : String} {m : Model}
    {fragments : List Fragment} (h : factory context binding m = .ok fragments) :
    arrayFlags? fragments =
      some (m.methods.map (fun method => (method.action, method.returnsArray))
        ++ if addsGetCurrent m then [("getCurrent", false)] else []) := by
  obtain ⟨-, hrouted⟩ := exists_factory_iff.mp ⟨fragments, h⟩
  -- every method has an action, whatever the route
  have hflag : ∀ method ∈ m.methods,
      (method.firstRoute?.map fun _ => (method.action, method.returnsArray)) =
        some (method.action, method.returnsArray) := by
    intro method hmethod
    obtain ⟨route, hroute⟩ := exists_routeOf_iff (m := m).mpr (hrouted method hmethod)
    rw [routeOf_eq_ok_iff.mp hroute, Option.map_some]
  rw [arrayFlags?, mapM_actionProperties h
    (fun method route => arrayFlag?_action context.isResultful m method route method.action)
    (arrayFlag?_getCurrentAction context.isResultful m), List.filterMap_congr hflag,
    List.filterMap_eq_map']

/-- The flags of a factory follow the types of TypeScript. -/
structure FlagsArrays (m : Model) (flags : List (String × Bool)) : Prop where
  /-- Every method has its action, in order, and then there is the one that a factory adds. -/
  actions_eq : flags.map Prod.fst =
    m.methods.map Method.action ++ if addsGetCurrent m then ["getCurrent"] else []
  /-- The action of a method is flagged exactly if some result is the whole response and an array
  in TypeScript. -/
  flagged_iff : ∀ method ∈ m.methods, (method.action, true) ∈ flags ↔
    ∃ r ∈ method.returns, r.root = true ∧ scriptType r.type = "any[]"
  /-- No action is flagged but those of methods. -/
  of_flagged : ∀ key, (key, true) ∈ flags → key ∈ m.methods.map Method.action

theorem flagsArrays_of_nodup {m : Model} (h : (m.methods.map Method.action).Nodup) :
    FlagsArrays m (m.methods.map (fun method => (method.action, method.returnsArray))
      ++ if addsGetCurrent m then [("getCurrent", false)] else []) := by
  -- a flag that is set is that of a method, since the added action is not flagged
  have hflagged (key : String) : (key, true) ∈
      m.methods.map (fun method => (method.action, method.returnsArray))
        ++ (if addsGetCurrent m then [("getCurrent", false)] else []) ↔
      ∃ method ∈ m.methods, method.action = key ∧ method.returnsArray = true := by
    have hadded : (key, true) ∉ if addsGetCurrent m then [("getCurrent", false)] else [] := by
      split <;> simp
    rw [List.mem_append, or_iff_left hadded, List.mem_map]
    simp only [Prod.mk.injEq]
  refine ⟨?_, fun method hmethod => ?_, fun key hkey => ?_⟩
  · rw [List.map_append, List.map_map]
    cases addsGetCurrent m <;> rfl
  · rw [hflagged, ← returnsArray_iff]
    constructor
    · rintro ⟨other, hother, haction, harray⟩
      rwa [List.inj_on_of_nodup_map h hother hmethod haction] at harray
    · intro harray
      exact ⟨method, hmethod, rfl, harray⟩
  · obtain ⟨method, hmethod, haction, -⟩ := (hflagged key).mp hkey
    exact haction ▸ List.mem_map_of_mem hmethod

end Angular

/-- **Both templates mean the same by an array type.**  A type is an array in TypeScript exactly if
a parameter of it is an array, and the actions of an AngularJS factory are flagged exactly where some
result is the whole response and an array in TypeScript. -/
theorem array_types_agree :
    (∀ p : Param, scriptType p.type = "any[]" ↔ p.isArray = true) ∧
    ∀ context binding m factory, Angular.factory context binding m = .ok factory →
      ∃ flags, Angular.arrayFlags? factory = some flags ∧ Angular.FlagsArrays m flags := by
  refine ⟨scriptType_eq_array_iff_isArray, fun context binding m factory h => ?_⟩
  obtain ⟨hfresh, -⟩ := Angular.factory_eq_ok h
  exact ⟨_, Angular.arrayFlags?_factory h, Angular.flagsArrays_of_nodup hfresh.1⟩

/-- A class of members whose methods return lists in several spellings, a list beside other results,
and a type with one bracket. -/
def memberClass : RestClass where
  name := "User"
  ctor := some [{ arg := "id" }]
  httpPath := "/members"
  methods :=
    let method (name : String) (isStatic : Bool) (returns : List Param) : Method :=
      { name, isStatic, accepts := [], returns, routes := [⟨"GET", "/" ++ name⟩],
        restClass := "User", aliases := [], description := none }
    [method "find" true [{ arg := "data", type := "[User]", root := true }],
      method "orders" false [{ arg := "data", type := "ARRAY", root := true }],
      method "pages" true [{ arg := "rows", type := "array" }, { arg := "count", type := "number" }],
      method "open" true [{ arg := "data", type := "[", root := true }]]

/-- The user model of this class. -/
def memberModel : Model := { restClass := memberClass, isUser := true }

theorem array_types_agree_members :
    scriptType "ARRAY" = "any[]" ∧ scriptType "[" = "any" ∧
      ∃ factory flags,
        Angular.factory { moduleName := "siras", models := .empty, urlBase := "" } "User"
          memberModel = .ok factory ∧
        Angular.arrayFlags? factory = some flags ∧ Angular.FlagsArrays memberModel flags ∧
        flags = [("find", true), ("prototype$orders", true), ("pages", false), ("open", false),
          ("getCurrent", false)] := by
  obtain ⟨htypes, hfactories⟩ := array_types_agree
  have hfactory : ∃ factory, Angular.factory { moduleName := "siras", models := .empty, urlBase := "" }
      "User" memberModel = .ok factory :=
    Angular.exists_factory_iff.mpr ⟨⟨by decide, by decide⟩, by decide⟩
  obtain ⟨factory, hfactory⟩ := hfactory
  obtain ⟨flags, hflags, hagree⟩ := hfactories _ _ _ _ hfactory
  have hread := hflags
  rw [Angular.arrayFlags?_factory hfactory, Option.some.injEq] at hread
  refine ⟨(htypes { arg := "data", type := "ARRAY" }).mpr (by cbv), by cbv, factory, flags,
    hfactory, hflags, hagree, ?_⟩
  rw [← hread]
  decide +kernel

end Client
end RestBindings
