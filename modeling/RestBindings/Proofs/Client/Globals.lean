import RestBindings.Proofs.Client.Rendering
import RestBindings.Proofs.Naming.Words

/-! # Models that hide a global from their module

The request helper of a TypeScript module calls functions of its environment, and its text does not
say which: `globalNames` reads them off, as the names that the helper calls or takes a member of and
that nothing in the module declares.  The clients are constants of the same module, so a client bound
to one of these names hides the global from the helper.

Reserving words does not prevent that.  A model takes the name of a global exactly when that is its
name in PascalCase (`bindingName_eq_iff`), which no global has that starts with a small letter.  The
others can be hidden, and a module is free of that exactly when none of its models has their name
(`globals_hidden_iff`).
-/
namespace RestBindings
namespace Client
namespace Fetch

open Code (Fragment Const)
open Naming (pascalCase isPlainChars)

/-! ## The globals that the helper uses -/

/-- A character of a word of code. -/
def isWordChar (c : Char) : Bool := c.isAlphanum || c == '_' || c == '$'

/-- A word of code, with the characters around it. -/
structure Word where
  before : Option Char
  text : List Char
  after : Option Char

/-- The words of what remains of a line, after a character and a part of a word, in reverse. -/
def wordsFrom (before : Option Char) (part : List Char) : List Char → List Word
  | [] => if part.isEmpty then [] else [⟨before, part.reverse, none⟩]
  | c :: rest =>
    if isWordChar c then wordsFrom before (c :: part) rest
    else if part.isEmpty then wordsFrom (some c) [] rest
    else ⟨before, part.reverse, some c⟩ :: wordsFrom (some c) [] rest

/-- The words of a line. -/
def words (line : String) : List Word := wordsFrom none [] line.toList

/-- The word is called or has a member taken, and is no member itself. -/
def Word.isUsed (w : Word) : Bool :=
  w.before != some '.' && (w.after == some '(' || w.after == some '.')

/-- The names that lines of code use. -/
def usedNames (lines : List String) : List (List Char) :=
  ((lines.flatMap words).filter Word.isUsed).map Word.text

/-- The words that declare the word after them. -/
def declarators : List (List Char) := ["const".toList, "let".toList, "function".toList]

/-- The names that a line declares: those after a declarator, and those that a type follows. -/
def declaredNames (line : String) : List (List Char) :=
  let typed := (words line).filter (·.after == some ':')
  let bound := ((words line).zip (words line).tail).filter fun w => declarators.contains w.1.text
  typed.map Word.text ++ bound.map (·.2.text)

/-- The lines between the functions of what stands before the clients, apart from the texts in
quotes. -/
def constantLines : List String :=
  let context : Context := { moduleName := "", models := .empty, urlBase := "" }
  (header context).flatten.filterMap fun
    | .line s => some s
    | _ => none

/-- The names that the body of the request helper finds declared. -/
def namesInScope (isResultful : Bool) : List (List Char) :=
  let helper := requestFunction isResultful
  helper.params.map (·.name.toList) ++ (constantLines ++ helper.body).flatMap declaredNames

/-- **The globals that the request helper uses**, in the order of their uses: the names that its body
uses and that neither it nor the module around it declares. -/
def globalNames (isResultful : Bool) : List String :=
  ((usedNames (requestFunction isResultful).body).filter fun name =>
    !(namesInScope isResultful).contains name).map String.ofList

/-! The kernel is slow to take a long text apart, so the next two proofs put the characters of every
line in place of the line before they compute. -/

theorem usedNames_requestBody :
    usedNames requestBody =
      ["options", "path", "encodeURIComponent", "String", "URLSearchParams", "Object", "options",
        "query", "JSON", "String", "query", "Object", "options", "String", "options", "JSON",
        "options", "fetch", "response", "Error", "response", "response", "JSON"].map
          String.toList := by
  rw [usedNames, requestBody]
  simp only [List.flatMap_cons, List.flatMap_nil, words, String.toList_append]
  repeat rw [String.toList_ofList]
  decide

theorem declaredNames_requestBody :
    requestBody.flatMap declaredNames =
      ["pathParams", "_", "name", "url", "query", "key", "search", "headers", "Accept", "headers",
        "key", "body", "body", "response", "text", "data"].map String.toList := by
  rw [requestBody]
  simp only [List.flatMap_cons, List.flatMap_nil, declaredNames, words, String.toList_append]
  repeat rw [String.toList_ofList]
  decide

theorem usedNames_append (lines lines' : List String) :
    usedNames (lines ++ lines') = usedNames lines ++ usedNames lines' := by
  simp only [usedNames, List.flatMap_append, List.filter_append, List.map_append]

theorem usedNames_body (isResultful : Bool) :
    usedNames (requestFunction isResultful).body =
      "session".toList :: usedNames requestBody
        ++ if isResultful then ["data".toList, "data".toList] else [] := by
  have hfirst : usedNames ["const accessToken = session.accessToken;"] = ["session".toList] := by
    decide
  have hlast : usedNames [if isResultful then
      "return data !== null && data.result !== undefined ? data.result : data;"
    else
      "return data;"] = if isResultful then ["data".toList, "data".toList] else [] := by
    cases isResultful <;> decide
  rw [requestFunction, usedNames_append, ← List.singleton_append, usedNames_append, hfirst, hlast]
  rfl

theorem namesInScope_eq (isResultful : Bool) :
    namesInScope isResultful =
      ["method", "path", "options", "moduleName", "urlBase", "authHeader", "accessToken", "session",
        "accessToken"].map String.toList ++ requestBody.flatMap declaredNames := by
  have hconstants : constantLines.flatMap declaredNames =
      ["moduleName", "urlBase", "authHeader", "accessToken", "session"].map String.toList := by
    decide
  have hfirst : declaredNames "const accessToken = session.accessToken;" =
      ["accessToken".toList] := by
    decide
  have hlast : declaredNames (if isResultful then
      "return data !== null && data.result !== undefined ? data.result : data;"
    else
      "return data;") = [] := by
    cases isResultful <;> decide
  rw [namesInScope, requestFunction]
  simp only [List.flatMap_append, List.flatMap_cons, List.flatMap_nil, hconstants, hfirst, hlast,
    List.map_cons, List.map_nil, List.cons_append, List.nil_append, List.append_nil]

/-- What the helper uses and does not declare, in the order of the uses. -/
theorem globalNames_eq (isResultful : Bool) :
    globalNames isResultful =
      ["encodeURIComponent", "String", "URLSearchParams", "Object", "JSON", "String", "Object",
        "String", "JSON", "fetch", "Error", "JSON"] := by
  rw [globalNames, usedNames_body, namesInScope_eq, usedNames_requestBody,
    declaredNames_requestBody]
  cases isResultful <;> decide

/-! ## Names that models are bound to -/

/-- **A model is bound to a plain name** exactly when this is its name in PascalCase. -/
theorem bindingName_eq_iff {name g : String} (hg : isPlainChars g.toList = true)
    (hfree : Naming.Convention.script.isReserved g = false) :
    bindingName name = g ↔ pascalCase name = g := by
  have hunderscore := Naming.not_underscore_of_isPlainChars hg
  rw [bindingName, Naming.safe_script_eq_iff hunderscore hfree, ← String.toList_inj,
    ← String.toList_inj, Naming.toList_toIdentifier, Naming.toList_pascalCase]
  exact Naming.toIdentifierChars_pascalChars_eq_iff hg

/-- The globals that have a name in PascalCase. -/
def capitalGlobals : List String := ["String", "URLSearchParams", "Object", "JSON", "Error"]

/-- A name in PascalCase is that of a global only if the global starts with a capital. -/
theorem pascalCase_mem_globalNames_iff {name : String} {isResultful : Bool} :
    pascalCase name ∈ globalNames isResultful ↔ pascalCase name ∈ capitalGlobals := by
  have hcases : ∀ g ∈ globalNames isResultful,
      g ∈ capitalGlobals ∨ g.toList.head?.any Char.isLower = true := by
    rw [globalNames_eq]
    decide
  have hcapital : ∀ g ∈ capitalGlobals, g ∈ globalNames isResultful := by
    rw [globalNames_eq]
    decide
  -- the others start with a small letter, and a name in PascalCase does not
  refine ⟨fun h => (hcases _ h).resolve_right fun hsmall => ?_, hcapital _⟩
  obtain ⟨c, hc, hlower⟩ := (Option.any_eq_true _ _).mp hsmall
  rw [Naming.toList_pascalCase] at hc
  rw [Naming.isLower_of_head?_pascalChars hc] at hlower
  cases hlower

/-- **Which models hide a global**: those whose name in PascalCase is that of a global. -/
theorem bindingName_mem_globalNames_iff {name : String} {isResultful : Bool} :
    bindingName name ∈ globalNames isResultful ↔ pascalCase name ∈ capitalGlobals := by
  have hplain : ∀ g ∈ globalNames isResultful,
      isPlainChars g.toList = true ∧ Naming.Convention.script.isReserved g = false := by
    rw [globalNames_eq]
    decide
  rw [← @pascalCase_mem_globalNames_iff name isResultful]
  constructor
  · intro h
    obtain ⟨hg, hfree⟩ := hplain _ h
    rwa [(bindingName_eq_iff hg hfree).mp rfl]
  · intro h
    obtain ⟨hg, hfree⟩ := hplain _ h
    rwa [(bindingName_eq_iff hg hfree).mpr rfl]

/-! ## Modules -/

/-- The client of a model is a constant that the module exports. -/
theorem name_of_client {binding : String} {m : Model} {c : Const} (h : client binding m = .ok c) :
    c.name = binding ∧ c.isExported = true := by
  obtain ⟨object, -, h⟩ := bind_eq_ok_iff.mp h
  cases h
  exact ⟨rfl, rfl⟩

/-- What holds of all members of a list, told of the members that stand for them in another. -/
theorem forall_mem_iff_of_forall₂ {α β : Type} {R : α → β → Prop} {p : β → Prop} {q : α → Prop}
    (hiff : ∀ a b, R a b → (p b ↔ q a)) {l : List α} {bs : List β} (h : List.Forall₂ R l bs) :
    (∀ b ∈ bs, p b) ↔ ∀ a ∈ l, q a := by
  induction h with
  | nil => simp
  | cons hab _ ih => rw [List.forall_mem_cons, List.forall_mem_cons, hiff _ _ hab, ih]

/-- **When a module hides a global from its helper.**  The helper uses seven globals.  The name that a
model is bound to is one of them exactly when its name in PascalCase is one that starts with a
capital.  A module exports one constant under the name of every model, so it leaves all globals to the
helper exactly when no model has such a name. -/
theorem globals_hidden_iff (isResultful : Bool) :
    (∀ g, g ∈ globalNames isResultful ↔
      g ∈ ["encodeURIComponent", "String", "Object", "URLSearchParams", "JSON", "Error", "fetch"]) ∧
    (∀ name, bindingName name ∈ globalNames isResultful ↔
      pascalCase name ∈ ["String", "URLSearchParams", "Object", "JSON", "Error"]) ∧
    ∀ context source, render context = .ok source →
      ∃ clients, source = (file context clients).render .script ∧
        List.Forall₂ (fun m c => c.name = bindingName m.name ∧ c.isExported = true)
          context.models.toList clients ∧
        ((∀ c ∈ clients, c.name ∉ globalNames context.isResultful) ↔
          ∀ m ∈ context.models.toList,
            pascalCase m.name ∉ ["String", "URLSearchParams", "Object", "JSON", "Error"]) := by
  refine ⟨fun g => ?_, fun name => bindingName_mem_globalNames_iff, fun context source h => ?_⟩
  · rw [globalNames_eq]
    simp only [List.mem_cons, List.not_mem_nil]
    tauto
  · obtain ⟨clients, hclients, rfl⟩ := exists_items_of_renderItems _ _ client _ h
    have hnames := hclients.imp fun m c hc => name_of_client hc
    refine ⟨clients, rfl, hnames, ?_⟩
    refine forall_mem_iff_of_forall₂ (fun m c hc => ?_) hnames
    rw [hc.1]
    exact not_congr bindingName_mem_globalNames_iff

/-- A model named like a global hides it. -/
theorem json_hidden : bindingName "JSON" ∈ globalNames false :=
  bindingName_mem_globalNames_iff.mpr (by decide)

end Fetch
end Client
end RestBindings
