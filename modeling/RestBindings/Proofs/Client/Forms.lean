import RestBindings.Proofs.Client.Rendering
import RestBindings.Proofs.Code.Form
import RestBindings.Proofs.Naming.Identifiers

/-! # The forms of the lines of the built-in templates

Both templates splice names, paths and keys of a registry into their lines.  Here is every line that
they have: lines of their own (`Fetch.ownLines`, `Angular.ownLines`), which nothing is spliced into,
and a few forms in which all that comes from outside is quoted or is a name.  None of them depends on
what is rendered, and all that is rendered fits them (`Fetch.fits_file`, `Angular.fits_module`).
-/
namespace RestBindings
namespace Client

open Code (Const Fits Form Fragment HasForm Lambda Object)
open Code.Form (own)

/-! ## Objects on one line -/

/-- An object on one line, with properties of a form. -/
def objectForm (property : Form) : Form :=
  .either (own "\x7b\x7d") (own "\x7b " ++ .listed property ++ own " \x7d")

theorem matches_inline {property : Form} {object : Object}
    (h : ∀ p ∈ object, ∀ value, Object.inlineValue? p.2 = some value →
      property.Matches (p.1 ++ ": " ++ value)) :
    (objectForm property).Matches (Object.inline object) := by
  cases object with
  | nil => exact .inl (Form.matches_own _)
  | cons p rest =>
    refine .inr (.append (.append (Form.matches_own _) (Form.matches_listed fun s hs => ?_))
      (Form.matches_own _))
    rw [Object.inlineProperties_eq_filterMap] at hs
    obtain ⟨q, hq, hs⟩ := List.mem_filterMap.mp hs
    obtain ⟨value, hvalue, rfl⟩ := Option.map_eq_some_iff.mp hs
    exact h q hq value hvalue

/-! ## TypeScript clients -/

namespace Fetch

/-- The lines that nothing is spliced into. -/
def ownLines : List String :=
  ["const session = \x7b accessToken: null as string | null \x7d;",
    "export function setAccessToken(token: string | null): void \x7b",
    "async function request(method: string, path: string, "
      ++ "options: RequestOptions = \x7b\x7d): Promise<any> \x7b",
    "\x7d", "\x7d,", "\x7d;"]
    ++ requestOptionsType ++ setAccessTokenFunction.body ++ (requestFunction false).body
    ++ (requestFunction true).body

/-- A constant with a quoted text. -/
def constantForm : Form :=
  Form.oneOf ["export const moduleName", "export const urlBase", "const authHeader"] ++ own " = "
    ++ .quoted ++ own ";"

/-- What opens the object of a model. -/
def clientForm : Form := own "export const " ++ .name ++ own " = \x7b"

/-- The name of a model. -/
def modelNameForm : Form := own "modelName" ++ own ": " ++ .quoted ++ own ","

/-- A type. -/
def typeForm : Form := .oneOf ("any" :: "any[]" :: knownTypes.map Prod.snd)

/-- A parameter of a function. -/
def formalForm : Form :=
  .either (.name ++ Form.oneOf [": ", "?: "] ++ typeForm)
    (.name ++ own ": " ++ typeForm ++ own " | undefined")

/-- What opens the function of a method. -/
def functionForm : Form :=
  .either .name .quoted ++ own ": " ++ (own "async " ++ own "(" ++ .listed formalForm ++ own ")"
    ++ own (": " ++ "Promise<any>") ++ own " => \x7b")

/-- Arguments as an object. -/
def argumentsForm : Form := objectForm (.quoted ++ own ": " ++ .name)

/-- A part of a request. -/
def partForm : Form :=
  Form.oneOf ["path", "query", "headers", "body"] ++ own ": " ++ .either argumentsForm .name

/-- What the function of a method does. -/
def requestForm : Form :=
  own "return request(" ++ .quoted ++ own ", " ++ .quoted ++ own ", " ++ objectForm partForm
    ++ own ");"

/-- The forms of all lines. -/
def forms : List Form :=
  [.oneOf ownLines, constantForm, clientForm, modelNameForm, functionForm, requestForm]

theorem hasForm_of_mem_ownLines {t : String} (h : t ∈ ownLines) : HasForm forms t :=
  ⟨_, List.mem_cons_self, h⟩

theorem matches_scriptType (type : String) : typeForm.Matches (scriptType type) := by
  have hmem : scriptType type ∈ "any" :: "any[]" :: knownTypes.map Prod.snd := by
    rw [scriptType]
    split
    · exact List.mem_cons_of_mem _ List.mem_cons_self
    · cases hlookup : knownTypes.lookup (Text.lowerAscii type) with
      | none => exact List.mem_cons_self
      | some known =>
        obtain ⟨before, after, htypes, -⟩ := List.lookup_eq_some_iff.mp hlookup
        refine List.mem_cons_of_mem _ (List.mem_cons_of_mem _ ?_)
        rw [htypes, List.map_append]
        exact List.mem_append_right _ List.mem_cons_self
  exact hmem

theorem matches_formal {a : Argument} (ha : Form.name.Matches a.name) (requiredFollows : Bool) :
    formalForm.Matches (formal a requiredFollows) := by
  have htype := matches_scriptType a.param.type
  rw [formal]
  split
  · exact .inl (.append (.append ha List.mem_cons_self) htype)
  · split
    · exact .inr (.append (.append (.append ha (Form.matches_own _)) htype) (Form.matches_own _))
    · exact .inl (.append (.append ha (List.mem_cons_of_mem _ List.mem_cons_self)) htype)

section Arguments

variable {args : List Argument} (hargs : ∀ a ∈ args, Form.name.Matches a.name)
include hargs

theorem matches_formals : ∀ s ∈ formals args, formalForm.Matches s := by
  induction args with
  | nil => exact nofun
  | cons a rest ih =>
    rw [List.forall_mem_cons] at hargs
    rw [formals, List.forall_mem_cons]
    exact ⟨matches_formal hargs.1 _, ih hargs.2⟩

theorem matches_arguments : argumentsForm.Matches (Object.inline (args.map Argument.property)) := by
  refine matches_inline fun p hp value hvalue => ?_
  obtain ⟨a, ha, rfl⟩ := List.mem_map.mp hp
  cases hvalue
  exact .append (.append (Form.matches_quoted _) (Form.matches_own _)) (hargs a ha)

theorem matches_group {name value : String} (hname : name ∈ ["path", "query", "headers", "body"])
    {p : String × Code.Expr} (hp : p ∈ group name args)
    (hvalue : Object.inlineValue? p.2 = some value) : partForm.Matches (p.1 ++ ": " ++ value) := by
  rw [group] at hp
  split at hp
  · cases hp
  · cases List.mem_singleton.mp hp
    rw [Object.inlineValue?_object] at hvalue
    obtain rfl := Option.some.inj hvalue
    exact .append (.append hname (Form.matches_own _)) (.inl (matches_arguments hargs))

theorem matches_body {code : String} (hcode : code ∈ body? args) :
    (Form.either argumentsForm .name).Matches code := by
  have hobject := matches_arguments hargs
  cases args with
  | nil => cases hcode
  | cons a rest =>
    cases rest with
    | cons b rest =>
      cases hcode
      exact .inl hobject
    | nil =>
      cases hcode
      -- one argument is the body, or is in it
      split
      · exact .inr (hargs a List.mem_cons_self)
      · exact .inl hobject

theorem matches_options : (objectForm partForm).Matches (Object.inline (options args)) := by
  have hfilter (test : Argument → Bool) : ∀ a ∈ args.filter test, Form.name.Matches a.name :=
    fun a ha => hargs a (List.mem_of_mem_filter ha)
  refine matches_inline fun p hp value hvalue => ?_
  rw [options, List.mem_append, List.mem_append, List.mem_append] at hp
  obtain ((hp | hp) | hp) | hp := hp
  · exact matches_group (hfilter _) (by simp) hp hvalue
  · exact matches_group (hfilter _) (by simp) hp hvalue
  · exact matches_group (hfilter _) (by simp) hp hvalue
  · obtain ⟨code, hcode, rfl⟩ := List.mem_map.mp hp
    cases hvalue
    have hname : "body" ∈ ["path", "query", "headers", "body"] := by simp
    have hbody := matches_body (hfilter _) (Option.mem_toList.mp hcode)
    exact .append (.append hname (Form.matches_own _)) hbody

end Arguments

/-! ### Clients -/

theorem matches_propertyKey (key : String) :
    (Form.either .name .quoted).Matches (propertyKey key) := by
  rw [propertyKey]
  split
  next h =>
    have hname := matches_name_toIdentifier key
    rw [Naming.toIdentifier_of_isIdentifier h] at hname
    exact .inl hname
  next => exact .inr (Form.matches_quoted key)

/-- The lines of the function of a method. -/
theorem fits_function {m : Model} {method : Method} {f : Lambda} (h : function m method = .ok f)
    (key : String) : Fits forms [Object.propertyFragment (propertyKey key) (.lambda f)] := by
  obtain ⟨route, args, -, hargs, rfl⟩ := function_eq_ok_iff.mp h
  obtain ⟨-, rfl⟩ := arguments_eq_ok_iff.mp hargs
  have hnames : ∀ a ∈ (callerParams method).map (argumentOf (identifying m method)),
      Form.name.Matches a.name :=
    List.forall_mem_map.mpr fun p _ => matches_name_safe p.arg
  have hhead : functionForm.Matches (propertyKey key ++ ": " ++ (callerFunction m method route
      ((callerParams method).map (argumentOf (identifying m method)))).head) := by
    refine .append ((matches_propertyKey key).append (Form.matches_own _)) ?_
    exact .append (.append (.append (.append (.append (Form.matches_own _) (Form.matches_own _))
      (Form.matches_listed (matches_formals hnames))) (Form.matches_own _)) (Form.matches_own _))
      (Form.matches_own _)
  have hbody : requestForm.Matches ("return request(" ++ Text.quote route.verb ++ ", "
      ++ Text.quote (actionPath m method route) ++ ", "
      ++ Object.inline (options ((callerParams method).map (argumentOf (identifying m method))))
      ++ ");") :=
    .append (.append (.append (.append (.append (.append (Form.matches_own _)
      (Form.matches_quoted _)) (Form.matches_own _)) (Form.matches_quoted _)) (Form.matches_own _))
      (matches_options hnames)) (Form.matches_own _)
  simp only [Object.propertyFragment, Code.fits_block, Code.fits_nil, callerFunction, List.map_cons,
    List.map_nil, Code.fits_line, and_true]
  refine ⟨⟨functionForm, by simp [forms], hhead⟩, ⟨requestForm, by simp [forms], hbody⟩, ?_⟩
  exact hasForm_of_mem_ownLines (by simp [ownLines])

theorem fits_clientObject {m : Model} {object : Object} (h : clientObject m = .ok object) :
    Fits forms (Object.propertyFragments object) := by
  obtain ⟨table, -, h⟩ := bind_eq_ok_iff.mp h
  obtain ⟨methods, hmethods, h⟩ := bind_eq_ok_iff.mp h
  cases h
  have hmodelName : modelNameForm.Matches ("modelName" ++ ": " ++ Text.quote m.name ++ ",") :=
    .append (.append (.append (Form.matches_own _) (Form.matches_own _)) (Form.matches_quoted _))
      (Form.matches_own _)
  refine Code.fits_propertyFragments (List.forall_mem_cons.mpr ⟨?_, fun p hp => ?_⟩)
  · rw [Object.propertyFragment, Code.fits_one_line]
    exact ⟨modelNameForm, by simp [forms], hmodelName⟩
  · obtain ⟨properties, hproperties, hp⟩ := List.mem_flatten.mp hp
    obtain ⟨k, -, hk⟩ := exists_mem_of_forall₂ (mapM_eq_ok_iff.mp hmethods) hproperties
    obtain ⟨f, hf, hk⟩ := bind_eq_ok_iff.mp hk
    cases hk
    obtain ⟨key, -, rfl⟩ := List.mem_map.mp hp
    exact fits_function hf key

theorem fits_client {binding : String} {m : Model} {c : Const}
    (hbinding : Form.name.Matches binding) (h : client binding m = .ok c) :
    Fits forms c.fragments := by
  obtain ⟨object, hobject, heq⟩ := fragments_of_client h
  have hopen : clientForm.Matches ("export const " ++ binding ++ " = \x7b") :=
    .append (.append (Form.matches_own _) hbinding) (Form.matches_own _)
  rw [heq, declaration, Code.fits_doc, Code.fits_block]
  exact ⟨⟨clientForm, by simp [forms], hopen⟩, fits_clientObject hobject,
    hasForm_of_mem_ownLines (by simp [ownLines]), Code.fits_nil⟩

theorem fits_constant {name head : String} {isExported : Bool}
    (hhead : Code.exportWord isExported ++ "const " ++ name ++ "" = head)
    (hmem : head ∈ ["export const moduleName", "export const urlBase", "const authHeader"])
    (s : String) :
    Fits forms (Const.fragments { name, value := .code (Text.quote s), isExported }) := by
  have hmatches : constantForm.Matches (head ++ " = " ++ Text.quote s ++ ";") :=
    .append (.append (.append hmem (Form.matches_own _)) (Form.matches_quoted s))
      (Form.matches_own _)
  rw [← hhead] at hmatches
  exact Code.fits_one_line.mpr ⟨constantForm, by simp [forms], hmatches⟩

theorem fits_header (context : Context) : ∀ item ∈ header context, Fits forms item := by
  have hclose : HasForm forms "\x7d" := hasForm_of_mem_ownLines (by simp [ownLines])
  have hmodule : Code.exportWord true ++ "const " ++ "moduleName" ++ "" =
      "export const moduleName" := rfl
  have hurl : Code.exportWord true ++ "const " ++ "urlBase" ++ "" = "export const urlBase" := rfl
  have hauth : Code.exportWord false ++ "const " ++ "authHeader" ++ "" = "const authHeader" := rfl
  have hsession : "" ++ "const " ++ "session" ++ "" ++ " = "
      ++ "\x7b accessToken: null as string | null \x7d" ++ ";" =
        "const session = \x7b accessToken: null as string | null \x7d;" := by decide
  have hrequest : ∀ l ∈ (requestFunction context.isResultful).body, l ∈ ownLines := by
    intro l hl
    cases hresultful : context.isResultful with
    | true =>
      rw [hresultful] at hl
      exact List.mem_append_right _ hl
    | false =>
      rw [hresultful] at hl
      exact List.mem_append_left _ (List.mem_append_right _ hl)
  simp only [header, List.forall_mem_cons]
  refine ⟨fits_constant hmodule (by simp) _, fits_constant hurl (by simp) _,
    Code.fits_ofLines fun l hl => hasForm_of_mem_ownLines (by simp [ownLines, hl]),
    fits_constant hauth (by simp) _,
    Code.fits_one_line.mpr (hasForm_of_mem_ownLines ?_),
    Code.fits_function (hasForm_of_mem_ownLines ?_)
      (fun l hl => hasForm_of_mem_ownLines (by simp [ownLines, hl])) hclose,
    Code.fits_function (hasForm_of_mem_ownLines ?_)
      (fun l hl => hasForm_of_mem_ownLines (hrequest l hl)) hclose, nofun⟩
  · have hmem : "const session = \x7b accessToken: null as string | null \x7d;" ∈ ownLines := by
      simp [ownLines]
    rwa [← hsession] at hmem
  · have hhead : setAccessTokenFunction.head =
        "export function setAccessToken(token: string | null): void \x7b" := by decide
    rw [hhead]
    simp [ownLines]
  · have hhead : (requestFunction context.isResultful).head =
        "async function request(method: string, path: string, "
          ++ "options: RequestOptions = \x7b\x7d): Promise<any> \x7b" := by
      cases context.isResultful <;> decide
    rw [hhead]
    simp [ownLines]

/-- **All lines of a module fit the forms.** -/
theorem fits_file {context : Context} {models : List Model} {clients : List Const}
    (h : List.Forall₂ (fun m c => client (bindingName m.name) m = .ok c) models clients) :
    Fits forms (Code.File.joined (file context clients).items) := by
  refine Code.fits_joined (List.forall_mem_append.mpr ⟨fits_header context, ?_⟩)
  refine List.forall_mem_map.mpr fun c hc => ?_
  obtain ⟨m, -, hm⟩ := exists_mem_of_forall₂ h hc
  exact fits_client (matches_name_safe _) hm

theorem isOneLine_ownLines : (Form.oneOf ownLines).isOneLine = true := by
  rw [Form.isOneLine, ownLines, requestOptionsType, setAccessTokenFunction, requestFunction,
    requestFunction, requestBody]
  simp only [List.cons_append, List.nil_append, List.all_cons, List.all_nil, String.toList_append]
  repeat rw [String.toList_ofList]
  decide

/-- No form has a line feed. -/
theorem isOneLine_forms : ∀ form ∈ forms, form.isOneLine = true := by
  rw [forms, List.forall_mem_cons]
  refine ⟨isOneLine_ownLines, ?_⟩
  decide

end Fetch

/-! ## AngularJS services -/

namespace Angular

/-- The lines of the functions that the actions of the user model hold. -/
def sessionLines : List String :=
  ["var accessToken = response.data;",
    "SiraAuth.setUser(accessToken.id, accessToken.userId, accessToken.user);",
    "SiraAuth.rememberMe = response.config.params.rememberMe !== false;", "SiraAuth.save();",
    "return response.resource;", "SiraAuth.clearUser();", "SiraAuth.clearStorage();",
    "var id = SiraAuth.currentUserId;", "if (id == null) id = '__anonymous__';", "return id;",
    "SiraAuth.currentUserData = response.data;"]

/-- The lines that nothing is spliced into. -/
def ownLines : List String :=
  ["(function(window, angular, undefined) \x7b", "'use strict';",
    "var authHeader = 'authorization';", "function unwrapResult(data) \x7b",
    "function(Resource, SiraAuth) \x7b", "var R = Resource(", "return R;", "\x7b", "\x7b\x7d",
    "\x7d", "\x7d,", ");", "]);", "\x7d);", "\x7d)(window, window.angular);"]
    ++ unwrapFunction.body ++ sessionLines ++ userHelpers ++ authServices ++ resourceProvider

/-- The URL of a path. -/
def urlForm : Form := own "urlBase + " ++ .quoted

/-- The forms of the lines of a module that stand around its factories. -/
def moduleForms : List Form := [
  own "var urlBase = " ++ .quoted ++ own ";",
  own "var module = angular.module(" ++ .quoted ++ own ", ['ngResource']);",
  own "module.provider(" ++ .quoted ++ own ", function() \x7b"]

/-- The default of every parameter that identifies an instance. -/
def paramDefaultsForm : Form := objectForm (.quoted ++ own ": " ++ .quoted) ++ own ","

/-- The assignment of an alias. -/
def aliasForm : Form := own "R[" ++ .quoted ++ own "] = R[" ++ .quoted ++ own "];"

/-- The forms of the lines of a factory that stand around its actions. -/
def factoryForms : List Form := [
  own "module.factory(" ++ .quoted ++ own ", [",
  .quoted ++ own ", 'SiraAuth',",
  urlForm ++ own ",",
  paramDefaultsForm,
  aliasForm,
  own "R.modelName = " ++ .quoted ++ own ";"]

/-- What opens an action. -/
def actionForm : Form := .quoted ++ own ": \x7b"

/-- The URL of an action. -/
def urlPropertyForm : Form := own "url" ++ own ": " ++ urlForm ++ own ","

/-- A property that is a text. -/
def textPropertyForm : Form := Form.oneOf ["method", "include"] ++ own ": " ++ .quoted ++ own ","

/-- A property of an action that is switched on. -/
def codePropertyForm : Form :=
  Form.oneOf ["isArray", "transformResponse", "__isGetCurrentUser__"] ++ own ": "
    ++ Form.oneOf ["true", "unwrapResult"] ++ own ","

/-- What opens a property that is an object. -/
def objectPropertyForm : Form := Form.oneOf ["params", "interceptor"] ++ own ": \x7b"

/-- What opens a property that is a function. -/
def functionPropertyForm : Form :=
  Form.oneOf ["response", "id"] ++ own ": "
    ++ Form.oneOf ["function(response) \x7b", "function() \x7b"]

/-- The forms of the lines of an action. -/
def actionForms : List Form :=
  [actionForm, urlPropertyForm, textPropertyForm, codePropertyForm, objectPropertyForm,
    functionPropertyForm]

/-- The forms of all lines. -/
def forms : List Form := .oneOf ownLines :: moduleForms ++ factoryForms ++ actionForms

theorem hasForm_of_mem_ownLines {t : String} (h : t ∈ ownLines) : HasForm forms t :=
  ⟨_, List.mem_cons_self, h⟩

theorem hasForm_close : HasForm forms "\x7d," := hasForm_of_mem_ownLines (by simp [ownLines])

theorem matches_url (path : String) : urlForm.Matches (urlCode path) :=
  .append (Form.matches_own _) (Form.matches_quoted path)

/-! ### Actions -/

/-- A property fits the forms when its lines do. -/
def FitsProperty (p : String × Code.Expr) : Prop := Fits forms [Object.propertyFragment p.1 p.2]

theorem hasForm_of_mem_actionForms {form : Form} (hform : form ∈ actionForms) {t : String}
    (h : form.Matches t) : HasForm forms t :=
  ⟨form, List.mem_append_right _ hform, h⟩

theorem fitsProperty_url (path : String) : FitsProperty ("url", .code (urlCode path)) := by
  have hline : urlPropertyForm.Matches ("url" ++ ": " ++ urlCode path ++ ",") :=
    .append (.append (.append (Form.matches_own _) (Form.matches_own _)) (matches_url path))
      (Form.matches_own _)
  exact Code.fits_one_line.mpr (hasForm_of_mem_actionForms (by simp [actionForms]) hline)

theorem fitsProperty_text {key : String} (hkey : key ∈ ["method", "include"]) (s : String) :
    FitsProperty (key, .text s) := by
  have hline : textPropertyForm.Matches (key ++ ": " ++ Text.quote s ++ ",") :=
    .append (.append (.append hkey (Form.matches_own _)) (Form.matches_quoted s))
      (Form.matches_own _)
  exact Code.fits_one_line.mpr (hasForm_of_mem_actionForms (by simp [actionForms]) hline)

theorem fitsProperty_code {key code : String}
    (hkey : key ∈ ["isArray", "transformResponse", "__isGetCurrentUser__"])
    (hcode : code ∈ ["true", "unwrapResult"]) : FitsProperty (key, .code code) := by
  have hline : codePropertyForm.Matches (key ++ ": " ++ code ++ ",") :=
    .append (.append (.append hkey (Form.matches_own _)) hcode) (Form.matches_own _)
  exact Code.fits_one_line.mpr (hasForm_of_mem_actionForms (by simp [actionForms]) hline)

/-- An object fits when what opens it and its properties do. -/
theorem fitsProperty_object {key : String} (hopen : HasForm forms (key ++ ": \x7b"))
    {properties : Object} (h : ∀ p ∈ properties, FitsProperty p) :
    FitsProperty (key, .object properties) := by
  rw [FitsProperty, Object.propertyFragment, Code.fits_block]
  exact ⟨hopen, Code.fits_propertyFragments h, hasForm_close, Code.fits_nil⟩

theorem hasForm_objectProperty {key : String} (hkey : key ∈ ["params", "interceptor"]) :
    HasForm forms (key ++ ": \x7b") :=
  have hmatches : objectPropertyForm.Matches (key ++ ": \x7b") :=
    .append hkey (Form.matches_own _)
  hasForm_of_mem_actionForms (by simp [actionForms]) hmatches

theorem fitsProperty_function {key : String} (hkey : key ∈ ["response", "id"]) {f : Lambda}
    (hhead : f.head ∈ ["function(response) \x7b", "function() \x7b"])
    (hbody : ∀ l ∈ f.body, l ∈ ownLines) : FitsProperty (key, .lambda f) := by
  have hopen : functionPropertyForm.Matches (key ++ ": " ++ f.head) :=
    .append (.append hkey (Form.matches_own _)) hhead
  rw [FitsProperty, Object.propertyFragment, Code.fits_block]
  exact ⟨hasForm_of_mem_actionForms (by simp [actionForms]) hopen,
    Code.fits_map_line fun l hl => hasForm_of_mem_ownLines (hbody l hl), hasForm_close,
    Code.fits_nil⟩

theorem fitsProperty_interceptor {body : List String} (hbody : ∀ l ∈ body, l ∈ ownLines) :
    FitsProperty (interceptor body) := by
  refine fitsProperty_object (hasForm_objectProperty (by simp)) (List.forall_mem_singleton.mpr ?_)
  refine fitsProperty_function (by simp) ?_ hbody
  have hhead : "" ++ "function(" ++ "response" ++ ")" ++ "" ++ " \x7b" =
      "function(response) \x7b" := by decide
  exact hhead ▸ List.mem_cons_self

theorem mem_ownLines_of_mem_sessionLines {l : String} (h : l ∈ sessionLines) : l ∈ ownLines := by
  simp [ownLines, h]

theorem fitsProperty_session (m : Model) (method : Method) :
    ∀ p ∈ sessionProperties m method, FitsProperty p := by
  have hlogin : ∀ p ∈ loginProperties, FitsProperty p := by
    have hinclude : FitsProperty ("include", .text "user") := fitsProperty_text (by simp) _
    refine List.forall_mem_cons.mpr ⟨?_, List.forall_mem_singleton.mpr ?_⟩
    · exact fitsProperty_object (hasForm_objectProperty (by simp))
        (List.forall_mem_singleton.mpr hinclude)
    · refine fitsProperty_interceptor fun l hl => mem_ownLines_of_mem_sessionLines ?_
      exact List.mem_append_left _ hl
  have hlogout : ∀ p ∈ logoutProperties, FitsProperty p := by
    refine List.forall_mem_singleton.mpr (fitsProperty_interceptor fun l hl => ?_)
    refine mem_ownLines_of_mem_sessionLines ?_
    revert l
    simp [sessionLines]
  rw [sessionProperties]
  split
  · split
    · exact hlogin
    · split
      · exact hlogout
      · exact nofun
  · exact nofun

theorem fitsProperty_unwrap (isResultful : Bool) :
    ∀ p ∈ unwrapProperties isResultful, FitsProperty p := by
  rw [unwrapProperties]
  split
  · exact List.forall_mem_singleton.mpr (fitsProperty_code (by simp) (by simp))
  · exact nofun

/-- The lines of an action. -/
theorem fitsProperty_action (isResultful : Bool) (m : Model) (method : Method) (route : Route) :
    ∀ p ∈ action isResultful m method route, FitsProperty p := by
  rw [action]
  refine List.forall_mem_append.mpr ⟨List.forall_mem_append.mpr ⟨List.forall_mem_append.mpr
    ⟨fitsProperty_session m method, ?_⟩, ?_⟩, fitsProperty_unwrap isResultful⟩
  · exact List.forall_mem_cons.mpr ⟨fitsProperty_url _,
      List.forall_mem_singleton.mpr (fitsProperty_text (by simp) _)⟩
  · split
    · exact List.forall_mem_singleton.mpr (fitsProperty_code (by simp) (by simp))
    · exact nofun

/-- The lines of the action that gets the user who is logged in. -/
theorem fitsProperty_getCurrent (isResultful : Bool) (m : Model) :
    ∀ p ∈ getCurrentAction isResultful m, FitsProperty p := by
  have hhead : "" ++ "function(" ++ "" ++ ")" ++ "" ++ " \x7b" = "function() \x7b" := by decide
  have hid : FitsProperty ("id", .lambda { isArrow := false, params := "", body := [
      "var id = SiraAuth.currentUserId;",
      "if (id == null) id = '__anonymous__';",
      "return id;"] }) := by
    refine fitsProperty_function (by simp) ?_ fun l hl => mem_ownLines_of_mem_sessionLines ?_
    · exact hhead ▸ List.mem_cons_of_mem _ List.mem_cons_self
    · revert l
      simp [sessionLines]
  have hinterceptor : FitsProperty (interceptor [
      "SiraAuth.currentUserData = response.data;",
      "return response.resource;"]) := by
    refine fitsProperty_interceptor fun l hl => mem_ownLines_of_mem_sessionLines ?_
    revert l
    simp [sessionLines]
  rw [getCurrentAction]
  simp only [List.forall_mem_append, List.forall_mem_cons]
  exact ⟨⟨fitsProperty_url _, fitsProperty_text (by simp) _,
    fitsProperty_object (hasForm_objectProperty (by simp)) (List.forall_mem_singleton.mpr hid),
    hinterceptor, fitsProperty_code (by simp) (by simp), nofun⟩, fitsProperty_unwrap isResultful⟩

/-- The lines of all actions. -/
theorem fitsProperty_actions {isResultful : Bool} {m : Model} {keys : List MethodKeys}
    {object : Object} (h : actions isResultful m keys = .ok object) :
    ∀ p ∈ object, FitsProperty p := by
  have hopen (name : String) : HasForm forms (Text.quote name ++ ": \x7b") :=
    have hmatches : actionForm.Matches (Text.quote name ++ ": \x7b") :=
      .append (Form.matches_quoted name) (Form.matches_own _)
    hasForm_of_mem_actionForms (by simp [actionForms]) hmatches
  obtain ⟨methods, hmethods, h⟩ := bind_eq_ok_iff.mp h
  cases h
  refine List.forall_mem_append.mpr ⟨fun p hp => ?_, ?_⟩
  · obtain ⟨k, -, hk⟩ := exists_mem_of_forall₂ (mapM_eq_ok_iff.mp hmethods) hp
    obtain ⟨route, -, hk⟩ := bind_eq_ok_iff.mp hk
    cases hk
    exact fitsProperty_object (hopen k.action) (fitsProperty_action isResultful m k.method route)
  · split
    · exact List.forall_mem_singleton.mpr
        (fitsProperty_object (hopen "getCurrent") (fitsProperty_getCurrent isResultful m))
    · exact nofun

/-! ### Factories -/

/-- A line of the module or of a factory with one quoted text. -/
theorem hasForm_around {start stop : String} (s : String)
    (h : own start ++ .quoted ++ own stop ∈ moduleForms ++ factoryForms) :
    HasForm forms (start ++ Text.quote s ++ stop) :=
  ⟨_, List.mem_cons_of_mem _ (List.mem_append_left _ h),
    .append (.append (Form.matches_own _) (Form.matches_quoted s)) (Form.matches_own _)⟩

theorem hasForm_of_mem_factoryForms {form : Form} (hform : form ∈ factoryForms) {t : String}
    (h : form.Matches t) : HasForm forms t :=
  ⟨form, List.mem_cons_of_mem _ (List.mem_append_left _ (List.mem_append_right _ hform)), h⟩

theorem hasForm_paramDefaults (m : Model) :
    HasForm forms (Object.inline (paramDefaults m) ++ ",") := by
  have hmatches : paramDefaultsForm.Matches (Object.inline (paramDefaults m) ++ ",") := by
    refine .append (matches_inline fun p hp value hvalue => ?_) (Form.matches_own _)
    obtain ⟨param, -, rfl⟩ := List.mem_map.mp hp
    cases hvalue
    exact .append (.append (Form.matches_quoted _) (Form.matches_own _)) (Form.matches_quoted _)
  exact hasForm_of_mem_factoryForms (by simp [factoryForms]) hmatches

theorem hasForm_aliasLine (key action : String) : HasForm forms (aliasLine key action) :=
  have hmatches : aliasForm.Matches (aliasLine key action) :=
    .append (.append (.append (.append (Form.matches_own _) (Form.matches_quoted key))
      (Form.matches_own _)) (Form.matches_quoted action)) (Form.matches_own _)
  hasForm_of_mem_factoryForms (by simp [factoryForms]) hmatches

/-- The lines of the actions as an object. -/
theorem fits_fragments {actions : Object} (h : ∀ p ∈ actions, FitsProperty p) :
    Fits forms (Object.fragments actions) := by
  cases actions with
  | nil => exact Code.fits_one_line.mpr (hasForm_of_mem_ownLines (by simp [ownLines]))
  | cons p rest =>
    exact Code.fits_block.mpr ⟨hasForm_of_mem_ownLines (by simp [ownLines]),
      Code.fits_propertyFragments h, hasForm_of_mem_ownLines (by simp [ownLines]), Code.fits_nil⟩

theorem fits_factory {context : Context} {binding : String} {m : Model} {fragments : List Fragment}
    (h : factory context binding m = .ok fragments) : Fits forms fragments := by
  obtain ⟨table, -, h⟩ := bind_eq_ok_iff.mp h
  obtain ⟨actions, hactions, h⟩ := bind_eq_ok_iff.mp h
  cases h
  have hresource : HasForm forms (Text.quote (resourceName context.moduleName) ++ ", 'SiraAuth',") :=
    hasForm_of_mem_factoryForms (by simp [factoryForms])
      (.append (Form.matches_quoted _) (Form.matches_own _))
  have hurl : HasForm forms (urlCode (resourcePath m) ++ ",") :=
    hasForm_of_mem_factoryForms (by simp [factoryForms])
      (.append (matches_url _) (Form.matches_own _))
  have haliases : Fits forms (if (aliasLines table.keys).isEmpty then []
      else .blank :: (aliasLines table.keys).map .line) := by
    split
    · exact Code.fits_nil
    · refine Code.fits_blank.mpr (Code.fits_map_line fun l hl => ?_)
      obtain ⟨k, -, hl⟩ := List.mem_flatMap.mp hl
      obtain ⟨key, -, rfl⟩ := List.mem_map.mp hl
      exact hasForm_aliasLine key k.action
  have hhelpers : Fits forms (if m.isUser then .blank :: Fragment.ofLines userHelpers else []) := by
    split
    · exact Code.fits_blank.mpr
        (Code.fits_ofLines fun l hl => hasForm_of_mem_ownLines (by simp [ownLines, hl]))
    · exact Code.fits_nil
  simp only [Code.fits_doc, Code.fits_block, Code.fits_line, Code.fits_append, Code.fits_blank,
    Code.fits_nil, and_true]
  refine ⟨hasForm_around _ (by simp [moduleForms, factoryForms]), ⟨hresource, ?_, ⟨⟨⟨⟨?_,
    ⟨⟨hurl, hasForm_paramDefaults m⟩, fits_fragments (fitsProperty_actions hactions)⟩, ?_⟩,
    haliases⟩, hhelpers⟩, hasForm_around _ (by simp [moduleForms, factoryForms]), ?_⟩, ?_⟩, ?_⟩
  all_goals exact hasForm_of_mem_ownLines (by simp [ownLines])

/-- **All lines of a module fit the forms.** -/
theorem fits_module {context : Context} {models : List (String × Model)}
    {factories : List (List Fragment)}
    (h : List.Forall₂ (fun m f => factory context m.1 m.2 = .ok f) models factories) :
    Fits forms (moduleFragments context factories) := by
  have hhead : unwrapFunction.head = "function unwrapResult(data) \x7b" := by decide
  have hunwrap : Fits forms (if context.isResultful then .blank :: unwrapFunction.fragments
      else []) := by
    split
    · refine Code.fits_blank.mpr (Code.fits_function ?_
        (fun l hl => hasForm_of_mem_ownLines (by simp [ownLines, hl])) ?_)
      · exact hasForm_of_mem_ownLines (by simp [ownLines, hhead])
      · exact hasForm_of_mem_ownLines (by simp [ownLines])
    · exact Code.fits_nil
  have hfactories : Fits forms (factories.flatMap (Fragment.blank :: ·)) := by
    refine Code.fits_flatMap.mpr fun fragments hfragments => Code.fits_blank.mpr ?_
    obtain ⟨m, -, hm⟩ := exists_mem_of_forall₂ h hfragments
    exact fits_factory hm
  have hauth : Fits forms (Fragment.ofLines authServices) :=
    Code.fits_ofLines fun l hl => hasForm_of_mem_ownLines (by simp [ownLines, hl])
  have hprovider : Fits forms (Fragment.ofLines resourceProvider) :=
    Code.fits_ofLines fun l hl => hasForm_of_mem_ownLines (by simp [ownLines, hl])
  simp only [moduleFragments, Code.fits_doc, Code.fits_block, Code.fits_line, Code.fits_append,
    Code.fits_blank, Code.fits_nil, and_true]
  refine ⟨?_, ⟨⟨⟨⟨⟨?_, hasForm_around _ (by simp [moduleForms]), ?_,
    hasForm_around _ (by simp [moduleForms])⟩, hunwrap⟩, hfactories⟩, hauth⟩,
    hasForm_around _ (by simp [moduleForms]), hprovider, ?_⟩, ?_⟩
  all_goals exact hasForm_of_mem_ownLines (by simp [ownLines])

theorem isOneLine_ownLines : (Form.oneOf ownLines).isOneLine = true := by
  rw [Form.isOneLine, ownLines, sessionLines, userHelpers, authServices, resourceProvider,
    unwrapFunction]
  simp only [List.cons_append, List.nil_append, List.all_cons, List.all_nil]
  repeat rw [String.toList_ofList]
  decide

/-- No form has a line feed. -/
theorem isOneLine_forms : ∀ form ∈ forms, form.isOneLine = true := by
  rw [forms, List.cons_append, List.cons_append, List.forall_mem_cons]
  refine ⟨isOneLine_ownLines, ?_⟩
  decide

end Angular

/-! ## Both templates -/

namespace Builtin

/-- The forms of all lines of a template. -/
def forms : Builtin → List Form
  | angular => Angular.forms
  | fetch => Fetch.forms

theorem isOneLine_forms (t : Builtin) : ∀ form ∈ t.forms, form.isOneLine = true := by
  cases t with
  | angular => exact Angular.isOneLine_forms
  | fetch => exact Fetch.isOneLine_forms

/-- The fragments that a template renders, under a name that is not blank. -/
def fragments (t : Builtin) (context : Context) : Except RenderError (List Fragment) := do
  context.checkModuleName
  let models ← context.identifiers t.bindingName
  match t with
  | angular =>
    let factories ← models.mapM fun (binding, m) => Angular.factory context binding m
    pure (Angular.moduleFragments context factories)
  | fetch =>
    let clients ← models.mapM fun (binding, m) => Fetch.client binding m
    pure (Code.File.joined (Fetch.file context clients).items)

/-- What a template renders is what its fragments say. -/
theorem render_eq_map_fragments (t : Builtin) (context : Context) :
    t.template.render context = Fragment.render .script <$> t.fragments context := by
  cases t with
  | angular =>
    simp only [fragments, map_bind, map_pure]
    rfl
  | fetch =>
    simp only [fragments, map_bind, map_pure]
    rfl

/-- **All lines of a template fit its forms**, whatever it renders. -/
theorem fits_forms {t : Builtin} {context : Context} {fragments : List Fragment}
    (h : t.fragments context = .ok fragments) : Fits t.forms fragments := by
  obtain ⟨-, -, h⟩ := bind_eq_ok_iff.mp h
  obtain ⟨models, hmodels, h⟩ := bind_eq_ok_iff.mp h
  cases t with
  | angular =>
    obtain ⟨factories, hfactories, h⟩ := bind_eq_ok_iff.mp h
    cases h
    exact Angular.fits_module (mapM_eq_ok_iff.mp hfactories)
  | fetch =>
    obtain ⟨clients, hclients, h⟩ := bind_eq_ok_iff.mp h
    cases h
    obtain ⟨-, rfl⟩ := identifiers_eq_ok_iff.mp hmodels
    exact Fetch.fits_file (List.forall₂_map_left_iff.mp (mapM_eq_ok_iff.mp hclients))

/-- A source is written of fragments whose lines fit, and are lines: no text in them ends one. -/
theorem exists_fragments_of_render {t : Builtin} {context : Context} {source : String}
    (h : t.template.render context = .ok source) :
    ∃ fragments, t.fragments context = .ok fragments ∧ source = Fragment.render .script fragments ∧
      ∀ text ∈ Fragment.textsAll fragments,
        '\n' ∉ text.toList ∧ ∃ form ∈ t.forms, form.Matches text := by
  rw [render_eq_map_fragments] at h
  cases hfragments : t.fragments context with
  | error e =>
    rw [hfragments] at h
    cases h
  | ok fragments =>
    rw [hfragments] at h
    refine ⟨fragments, rfl, (Except.ok.inj h).symm, fun text htext => ?_⟩
    obtain ⟨form, hform, hmatches⟩ := fits_forms hfragments text htext
    exact ⟨Form.not_mem_of_matches (t.isOneLine_forms form hform) hmatches, form, hform, hmatches⟩

end Builtin
end Client
end RestBindings
