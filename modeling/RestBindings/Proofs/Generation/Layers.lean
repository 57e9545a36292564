import RestBindings.Generation.Options

/-! # Options in layers

What is chosen on the command line stands over what a file chooses, and the defaults stand under
both.  Read layer by layer, with the empty text as no choice anywhere, what is used of a setting is
the first choice that is not empty (`Setting.layered`).

Layering options reads them differently: a choice that is made wins even if it is empty, and only
where the defaults are supplied is an empty text no choice.  So an empty choice takes the file's layer
away and leaves the default (`choose_orElse`).  The two readings agree unless that makes a difference
(`Setting.used_eq_layered_iff`).
-/
namespace RestBindings
namespace Generation

/-! ## One choice over another -/

@[simp] theorem choose_none (default : String) : choose none default = default := rfl

@[simp] theorem choose_empty (default : String) : choose (some "") default = default := rfl

theorem choose_of_ne {value : String} (h : value ≠ "") (default : String) :
    choose (some value) default = value := by
  simp [choose, Option.filter_some, h]

/-- **One choice over another** gives the first that is not empty, except that an empty one on top
hides the other. -/
theorem choose_orElse (flag file : Option String) (default : String) :
    choose (flag <|> file) default =
      if flag = some "" then default else choose flag (choose file default) := by
  cases flag with
  | none => simp
  | some value =>
    by_cases hempty : value = ""
    · simp [hempty]
    · simp [hempty, choose_of_ne hempty]

/-- A choice comes out as the default exactly if it is not made, is empty or comes to the same. -/
theorem map_choose_eq_default_iff {form : String → String} {choice : Option String}
    {default : String} :
    form (choose choice default) = form default ↔
      ∀ value, choice = some value → value = "" ∨ form value = form default := by
  cases choice with
  | none => simp
  | some value =>
    by_cases hempty : value = ""
    · simp [hempty]
    · simp [hempty, choose_of_ne hempty]

/-! ## Settings -/

/-- What a user may choose. -/
inductive Setting where
  | template
  | moduleName
  | apiUrl
deriving DecidableEq, Repr

namespace Setting

/-- The choice of a setting. -/
def choice : Setting → Options → Option String
  | template, o => o.template
  | moduleName, o => o.moduleName
  | apiUrl, o => o.apiUrl

/-- The value of a setting that nobody chose. -/
def defaultValue : Setting → String
  | template => defaultTemplate
  | moduleName => defaultModuleName
  | apiUrl => defaultApiUrl

/-- The form in which a value is used: of a URL, slashes at its end are dropped. -/
def form : Setting → String → String
  | template, value => value
  | moduleName, value => value
  | apiUrl, value => Client.stripSlashes value

/-- What is used of a setting. -/
def used : Setting → ResolvedOptions → String
  | template, r => r.template
  | moduleName, r => r.moduleName
  | apiUrl, r => r.urlBase

/-- What is to be used of a setting if an empty choice is no choice in any layer: the first choice
that is not empty, or the default. -/
def layered (s : Setting) (flags file : Options) : String :=
  s.form (choose (s.choice flags) (choose (s.choice file) s.defaultValue))

theorem choice_or (s : Setting) (o fallback : Options) :
    s.choice (o.or fallback) = (s.choice o <|> s.choice fallback) := by
  cases s <;> rfl

theorem used_resolve (s : Setting) (o : Options) :
    s.used o.resolve = s.form (choose (s.choice o) s.defaultValue) := by
  cases s <;> rfl

/-- An empty choice gives the default, whatever the file chooses. -/
theorem used_of_empty {s : Setting} {flags : Options} (h : s.choice flags = some "")
    (file : Options) : s.used (flags.or file).resolve = s.form s.defaultValue := by
  rw [used_resolve, choice_or, choose_orElse, if_pos h]

/-- Any other choice stands over that of the file. -/
theorem used_of_not_empty {s : Setting} {flags : Options} (h : s.choice flags ≠ some "")
    (file : Options) : s.used (flags.or file).resolve = s.layered flags file := by
  rw [used_resolve, choice_or, choose_orElse, if_neg h, layered]

/-- **What is used of a setting** is the first choice that is not empty, or the default, exactly
unless an empty choice stands over one of the file that is not empty and does not come to the same as
the default.  An empty choice gives the default whatever the file chooses. -/
theorem used_eq_layered_iff (s : Setting) (flags file : Options) :
    (s.used (flags.or file).resolve = s.layered flags file ↔
      (s.choice flags = some "" → ∀ value, s.choice file = some value →
        value = "" ∨ s.form value = s.form s.defaultValue)) ∧
    (s.choice flags = some "" →
      s.used (flags.or file).resolve = s.form s.defaultValue) := by
  refine ⟨?_, fun h => used_of_empty h file⟩
  by_cases h : s.choice flags = some ""
  · have hlayered : s.layered flags file = s.form (choose (s.choice file) s.defaultValue) := by
      rw [layered, h, choose_empty]
    rw [used_of_empty h, hlayered, eq_comm, map_choose_eq_default_iff]
    simp [h]
  · simp [h, used_of_not_empty h]

/-- Empty choices of all settings give the defaults, though the file makes other choices. -/
theorem file_hidden_by_empty :
    (Options.or ⟨some "", some "", some ""⟩
      ⟨some "fetch", some "shop", some "http://localhost/api"⟩).resolve =
        ⟨"angular", "siras", ""⟩ ∧
    ∀ s : Setting,
      s.used (Options.or ⟨some "", some "", some ""⟩
        ⟨some "fetch", some "shop", some "http://localhost/api"⟩).resolve ≠
      s.layered ⟨some "", some "", some ""⟩
        ⟨some "fetch", some "shop", some "http://localhost/api"⟩ := by
  refine ⟨by decide +kernel, fun s => ?_⟩
  cases s <;> decide +kernel

end Setting
end Generation
end RestBindings
