import Mathlib.Logic.Function.Basic
import RestBindings.Proofs.Registry.Param
import RestBindings.Report.Generate

/-! # The dump of described models loses nothing

The written form of every part of a model determines the part: a parameter because it is read back
from it, and each record around it because the members that it may leave out are told apart by their
names.  The written form of models has no numbers and nests at most eight brackets deep, and such a
form is determined by its text (`Json.Reader.eq_of_chars_eq`).  So two collections of models with one
dump are the same models, in the same order (`Report.dump_determines_models`).
-/
namespace RestBindings

open Function (Injective)
open Json (Layout Value)

/-! ## Written forms are told apart -/

namespace Json

variable {α : Type} {f : α → Value}

theorem Value.ofOption_injective (hf : Injective f) (hnull : ∀ a, f a ≠ .null) :
    Injective (Value.ofOption f) := by
  intro o o' h
  cases o with
  | none =>
    cases o' with
    | none => rfl
    | some b => exact absurd h.symm (hnull b)
  | some a =>
    cases o' with
    | none => exact absurd h (hnull a)
    | some b => exact congrArg some (hf h)

/-- A member that may be left out is told apart from the members after it by its name. -/
theorem optional_member_inj (hf : Injective f) {name : String} {o o' : Option α}
    {rest rest' : List (String × Value)} (hrest : name ∉ rest.map Prod.fst)
    (hrest' : name ∉ rest'.map Prod.fst)
    (h : o.toList.map (fun a => (name, f a)) ++ rest = o'.toList.map (fun a => (name, f a)) ++ rest') :
    o = o' ∧ rest = rest' := by
  cases o with
  | none =>
    cases o' with
    | none => exact ⟨rfl, h⟩
    | some b =>
      have hmem : name ∈ rest.map Prod.fst := by simp [show rest = (name, f b) :: rest' from h]
      exact absurd hmem hrest
  | some a =>
    cases o' with
    | none =>
      have hmem : name ∈ rest'.map Prod.fst := by
        simp [show rest' = (name, f a) :: rest from h.symm]
      exact absurd hmem hrest'
    | some b =>
      obtain ⟨hfirst, hafter⟩ := List.cons.inj h
      exact ⟨congrArg some (hf (Prod.mk.inj hfirst).2), hafter⟩

theorem Value.text_injective : Injective Value.text := fun _ _ => Value.text.inj

end Json

/-- A parameter is read back from its written form, so the form determines it. -/
theorem Param.toJson_injective : Injective Param.toJson := by
  intro p q h
  have hp := Param.reads_toJson Layout.compact 0 p []
  rw [h, Param.reads_toJson Layout.compact 0 q [], Except.ok.injEq, Prod.mk.injEq] at hp
  exact hp.1.symm

theorem Route.toJson_injective : Injective Route.toJson := by
  rintro ⟨verb, path⟩ ⟨verb', path'⟩ h
  simpa [Route.toJson] using h

theorem Method.toJson_injective : Injective Method.toJson := by
  intro m n h
  simp only [Method.toJson, Value.object.injEq, List.cons_append, List.nil_append, List.cons.injEq,
    Prod.mk.injEq, true_and, and_true, Value.text.injEq, Value.bool.injEq, Value.list.injEq,
    List.map_inj_right Param.toJson_injective, List.map_inj_right Route.toJson_injective,
    List.map_inj_right Value.text_injective] at h
  obtain ⟨hname, haccepts, hstatic, hroutes, hclass, hshared, -, haliases, hrest⟩ := h
  obtain ⟨hdescription, hreturns⟩ :=
    Json.optional_member_inj Value.text_injective (by simp) (by simp) hrest
  simp only [List.cons.injEq, Prod.mk.injEq, true_and, and_true, Value.list.injEq,
    List.map_inj_right Param.toJson_injective] at hreturns
  cases m
  cases n
  simp_all only

/-- The written form of the parameters of a constructor. -/
theorem RestClass.jsonMembers_injective : Injective RestClass.jsonMembers := by
  intro c d h
  have hctor : Injective (Value.ofOption fun accepts : List Param =>
      .object [("accepts", .list (accepts.map Param.toJson))]) := by
    refine Json.Value.ofOption_injective (fun l l' hl => ?_) (fun _ => by simp)
    simpa [List.map_inj_right Param.toJson_injective] using hl
  simp only [RestClass.jsonMembers, List.cons.injEq, Prod.mk.injEq, true_and, and_true,
    Value.text.injEq, Value.list.injEq, hctor.eq_iff,
    List.map_inj_right Method.toJson_injective] at h
  obtain ⟨hname, hctor, hpath, hmethods⟩ := h
  cases c
  cases d
  simp_all only

theorem Model.toJson_injective : Injective Model.toJson := by
  rintro ⟨c, isUser⟩ ⟨d, isUser'⟩ h
  obtain ⟨hclass, huser⟩ := List.append_inj (Value.object.inj h) rfl
  obtain rfl := RestClass.jsonMembers_injective hclass
  simpa using huser

theorem Models.toJson_injective : Injective Models.toJson := by
  rintro ⟨l, hl⟩ ⟨l', hl'⟩ h
  have hmember : Injective fun m : Model => (m.name, m.toJson) :=
    fun m n hmn => Model.toJson_injective (Prod.mk.inj hmn).2
  obtain rfl := hmember.list_map (Value.object.inj h)
  rfl

/-! ## Written forms have no numbers -/

section Plain

variable (depth : Nat)

theorem Param.plain_toJson (p : Param) : p.toJson.Plain (depth + 2) := by
  rw [Param.toJson]
  simp [or_imp, forall_and]

theorem Route.plain_toJson (r : Route) : r.toJson.Plain (depth + 1) := by
  simp [Route.toJson]

theorem Method.plain_toJson (m : Method) : m.toJson.Plain (depth + 5) := by
  simp [Method.toJson, Route.plain_toJson, Param.plain_toJson, or_imp, forall_and]

theorem RestClass.plain_jsonMembers (c : RestClass) :
    ∀ member ∈ c.jsonMembers, member.2.Plain (depth + 6) := by
  cases hctor : c.ctor <;>
    simp [RestClass.jsonMembers, Value.ofOption, hctor, Param.plain_toJson, Method.plain_toJson]

theorem Model.plain_toJson (m : Model) : m.toJson.Plain (depth + 7) := by
  rw [Model.toJson, Value.plain_object]
  intro member hmember
  rcases List.mem_append.mp hmember with hclass | huser
  · exact m.restClass.plain_jsonMembers depth member hclass
  · simp [List.mem_singleton.mp huser]

theorem Models.plain_toJson (models : Models) : models.toJson.Plain (depth + 8) := by
  simp [Models.toJson, Model.plain_toJson]

end Plain

/-! ## The two texts -/

/-- In any layout, models are told apart by the text of their written form. -/
theorem Models.eq_of_chars_eq {a b : Models} (layout : Layout)
    (h : layout.chars 0 a.toJson = layout.chars 0 b.toJson) : a = b :=
  Models.toJson_injective
    (Json.Reader.eq_of_chars_eq (a.plain_toJson 0) (b.plain_toJson 0) layout 0 h)

namespace Report

theorem describeJson_eq_ok_iff {registry : Registry} {text : String} :
    describeJson registry = .ok text ↔
      ∃ models : Models, registry.describe.models = .ok models ∧ models.toJson.pretty = text := by
  rw [describeJson]
  cases registry.describe.models with
  | ok models => simp [Except.map]
  | error error => simp [Except.map]

/-- **The dump of described models loses nothing**: models with one compact text or one pretty text
are the same models in the same order, and two registries are described by one text exactly when
they are described by the same models. -/
theorem dump_determines_models :
    (∀ a b : Models, (a.toJson.pretty = b.toJson.pretty ↔ a = b) ∧
      (a.toJson.compact = b.toJson.compact ↔ a = b)) ∧
    ∀ (r s : Registry) (text : String),
      describeJson r = .ok text ∧ describeJson s = .ok text ↔
        ∃ models : Models, models.toJson.pretty = text ∧
          r.describe.models = .ok models ∧ s.describe.models = .ok models := by
  have hpretty {a b : Models} (h : a.toJson.pretty = b.toJson.pretty) : a = b := by
    refine Models.eq_of_chars_eq Layout.pretty ?_
    rw [← Layout.toList_pretty, h, Layout.toList_pretty]
  have hcompact {a b : Models} (h : a.toJson.compact = b.toJson.compact) : a = b := by
    refine Models.eq_of_chars_eq Layout.compact ?_
    rw [← Layout.toList_compact, h, Layout.toList_compact]
  refine ⟨fun a b => ⟨⟨hpretty, fun h => by rw [h]⟩, ⟨hcompact, fun h => by rw [h]⟩⟩, ?_⟩
  intro r s text
  constructor
  · rintro ⟨hr, hs⟩
    obtain ⟨a, ha, htext⟩ := describeJson_eq_ok_iff.mp hr
    obtain ⟨b, hb, htext'⟩ := describeJson_eq_ok_iff.mp hs
    obtain rfl := hpretty (htext.trans htext'.symm)
    exact ⟨a, htext, ha, hb⟩
  · rintro ⟨models, htext, hr, hs⟩
    exact ⟨describeJson_eq_ok_iff.mpr ⟨models, hr, htext⟩,
      describeJson_eq_ok_iff.mpr ⟨models, hs, htext⟩⟩

end Report
end RestBindings
