import RestBindings.Proofs.Client.Forms
import RestBindings.Proofs.Client.Globals
import RestBindings.Proofs.Code.Declared
import RestBindings.Proofs.Generation.Agreement

/-! # The names that a TypeScript module declares

A generated module declares two constants about itself, two that it keeps for its helpers, the
helpers, and a constant for every model.  Rendering checks that the models are bound to different
names; nothing checks them against the other six.

It need not.  A name in PascalCase does not start with a small letter, and a name that had to be
repaired is none of the six either, so no model is bound to one of them unless it is reserved; then
the model's name is escaped (`bindingName_not_mem_ownNames`).  So the names that a source declares at
its top level differ (`top_level_names_differ`).
-/
namespace RestBindings

open Code (Const Fragment topLevelNames)

namespace Client
namespace Fetch

/-- The names that every module declares. -/
def ownNames : List String :=
  ["moduleName", "urlBase", "authHeader", "session", "setAccessToken", "request"]

/-! ## Names of models -/

/-- No model is bound to a plain name that starts with a small letter. -/
theorem bindingName_ne {name g : String} (hg : Naming.isPlainChars g.toList = true)
    (hsmall : g.toList.head?.any Char.isLower = true) : bindingName name ≠ g := by
  intro h
  cases hfree : Naming.Convention.script.isReserved g with
  | false =>
    -- the name would be its PascalCase, which starts with no small letter
    obtain ⟨c, hc, hlower⟩ := (Option.any_eq_true _ _).mp hsmall
    rw [← (bindingName_eq_iff hg hfree).mp h, Naming.toList_pascalCase] at hc
    rw [Naming.isLower_of_head?_pascalChars hc] at hlower
    cases hlower
  | true =>
    rw [bindingName, Naming.Convention.safe] at h
    split at h
    next =>
      have hescape : '_' ∈ g.toList := by
        rw [← h]
        simp [Naming.Convention.script]
      exact Naming.not_underscore_of_isPlainChars hg hescape
    next hno => exact hno (h ▸ hfree)

theorem bindingName_not_mem_ownNames (name : String) : bindingName name ∉ ownNames := by
  have hplain : ∀ g ∈ ownNames, Naming.isPlainChars g.toList = true ∧
      g.toList.head?.any Char.isLower = true := by decide
  intro h
  obtain ⟨hg, hsmall⟩ := hplain _ h
  exact bindingName_ne hg hsmall rfl

/-! ## Names of a module -/

theorem declaredAll_constant {name code : String} {isExported : Bool}
    (hname : name.toList.all Naming.isIdentifierPart = true) :
    Fragment.declaredAll (Const.fragments { name, value := .code code, isExported }) = [name] :=
  Code.declaredAll_const (List.all_eq_true.mp hname)

/-- What stands before the clients declares the module's own names. -/
theorem declaredAll_header (context : Context) :
    (header context).flatMap Fragment.declaredAll = ownNames := by
  have htype : Fragment.declaredAll (Fragment.ofLines requestOptionsType) = [] := by decide
  have htoken : Fragment.declaredAll setAccessTokenFunction.fragments = ["setAccessToken"] :=
    Code.declaredAll_function (List.all_eq_true.mp (by decide))
  have hname : "request".toList.all Naming.isIdentifierPart = true := by decide
  have hrequest : Fragment.declaredAll (requestFunction context.isResultful).fragments =
      ["request"] :=
    Code.declaredAll_function (List.all_eq_true.mp hname)
  simp only [header, List.flatMap_cons, List.flatMap_nil, htype, htoken, hrequest]
  rw [declaredAll_constant (by decide), declaredAll_constant (by decide),
    declaredAll_constant (by decide), declaredAll_constant (by decide)]
  rfl

theorem hasRawAll_header (context : Context) :
    ∀ item ∈ header context, Fragment.hasRawAll item = false := by
  simp only [header, List.forall_mem_cons]
  exact ⟨Code.hasRawAll_const _, Code.hasRawAll_const _, Code.hasRawAll_map_line _ _,
    Code.hasRawAll_const _, Code.hasRawAll_const _, Code.hasRawAll_function _,
    Code.hasRawAll_function _, List.forall_mem_nil _⟩

/-- Every client declares the name that its model is bound to. -/
theorem declaredAll_clients {models : List Model} {clients : List Const}
    (h : List.Forall₂ (fun m c => client (bindingName m.name) m = .ok c) models clients) :
    (clients.map Const.fragments).flatMap Fragment.declaredAll =
      models.map fun m => bindingName m.name := by
  induction h with
  | nil => rfl
  | @cons m c models clients hclient _ ih =>
    obtain ⟨hname, -⟩ := name_of_client hclient
    have hparts : ∀ d ∈ c.name.toList, Naming.isIdentifierPart d = true := by
      rw [hname]
      exact (matches_name_safe _).2
    rw [List.map_cons, List.flatMap_cons, ih, Code.declaredAll_const hparts, hname]
    rfl

/-- **The names that a module declares**: its own, and those that its models are bound to. -/
theorem topLevelNames_file {context : Context} {models : List Model} {clients : List Const}
    (h : List.Forall₂ (fun m c => client (bindingName m.name) m = .ok c) models clients) :
    topLevelNames ((file context clients).render .script) =
      ownNames ++ models.map fun m => bindingName m.name := by
  have hfeed : ∀ t ∈ Fragment.textsAll (Code.File.joined (file context clients).items),
      '\n' ∉ t.toList := by
    intro t ht
    obtain ⟨form, hform, hmatches⟩ := fits_file h t ht
    exact Code.Form.not_mem_of_matches (isOneLine_forms form hform) hmatches
  have hraw : Fragment.hasRawAll (Code.File.joined (file context clients).items) = false := by
    refine Code.hasRawAll_joined (List.forall_mem_append.mpr ⟨hasRawAll_header context, ?_⟩)
    exact List.forall_mem_map.mpr fun c _ => Code.hasRawAll_const c
  rw [Code.File.render, Code.topLevelNames_render hfeed hraw, Code.declaredAll_joined, file,
    List.flatMap_append, declaredAll_header, declaredAll_clients h]

end Fetch
end Client

namespace Generation

open Client (Builtin builtinTemplates)

/-- **The names that a TypeScript module declares differ.**  An answer of the template `fetch`
declares six values at its top level and a constant for every model, and no two of them have the same
name.  The names are read off the source line by line (`topLevelNames`), which takes every comment to
end where it was meant to: a model whose name ends the comment on its client early (`Code.IsOneComment`
fails) may bring more code than is counted here. -/
theorem top_level_names_differ {registry : Registry} {options : Options} {answer : Generated}
    (ht : options.resolve.template = "fetch")
    (h : generateServices registry builtinTemplates options = .ok answer) :
    ∃ classes models, registry.classes = .ok classes ∧ (describe classes).models = .ok models ∧
      topLevelNames answer.source =
        ["moduleName", "urlBase", "authHeader", "session", "setAccessToken", "request"]
          ++ models.toList.map (fun m => Client.Fetch.bindingName m.name) ∧
      (topLevelNames answer.source).Nodup := by
  obtain ⟨classes, models, hclasses, hmodels, hrender⟩ :=
    exists_rendered_of_generateServices (t := .fetch) ht h
  obtain ⟨-, hnodup, clients, hclients, hsource⟩ :=
    (Client.renderItems_eq_ok_iff _ _ Client.Fetch.client _).mp hrender
  have hnames : topLevelNames answer.source = Client.Fetch.ownNames
      ++ models.toList.map (fun m => Client.Fetch.bindingName m.name) := by
    rw [hsource]
    exact Client.Fetch.topLevelNames_file hclients
  refine ⟨classes, models, hclasses, hmodels, hnames, ?_⟩
  rw [hnames, List.nodup_append']
  refine ⟨by decide, hnodup, fun name hown hmodel => ?_⟩
  obtain ⟨m, -, rfl⟩ := List.mem_map.mp hmodel
  exact Client.Fetch.bindingName_not_mem_ownNames m.name hown

/-- A class whose model is named like a constant of the module. -/
def sessionClass : RestClass where
  name := "session"
  ctor := some [{ arg := "id" }]
  httpPath := "/sessions"
  methods := []

theorem top_level_names_session :
    ∃ answer, generateServices (.ofClasses [sessionClass] none) builtinTemplates
        { template := some "fetch" } = .ok answer ∧
      topLevelNames answer.source = ["moduleName", "urlBase", "authHeader", "session",
        "setAccessToken", "request", "Session"] ∧
      (topLevelNames answer.source).Nodup := by
  obtain ⟨answer, hanswer⟩ : ∃ answer, generateServices (.ofClasses [sessionClass] none)
      builtinTemplates { template := some "fetch" } = .ok answer := by
    refine exists_answer_of_rendersAll (t := .fetch) rfl rfl (by decide) (by decide +kernel) ?_
    refine ⟨by decide, fun m hm => ?_⟩
    obtain rfl := List.mem_singleton.mp hm
    exact Builtin.renders_fetch_iff.mpr ⟨fresh_nil _, nofun⟩
  obtain ⟨classes, models, hclasses, hmodels, hnames, hnodup⟩ := top_level_names_differ rfl hanswer
  cases hclasses
  obtain ⟨-, htoList⟩ := describe_eq_ok_iff.mp hmodels
  rw [htoList] at hnames
  exact ⟨answer, hanswer, hnames.trans (by decide), hnodup⟩

end Generation
end RestBindings
