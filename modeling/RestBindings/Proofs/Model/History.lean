import Mathlib.Data.Finset.Card
import RestBindings.Proofs.Description.Dependence

/-! # Models added one after another

A collection is made by adding models to it.  Adding a model can do one of two things
(`exchangeModel_cases`): it takes the place of the model with its name, or it comes to the end.  All
that a collection tells of the models added is read off these two cases, step by step: the names in
the order in which they first came, and under each name the model that came last (`Records`).

So the order of names is all that two collections may differ in if they give the same model under
every name.  That is what `Same` leaves out: it holds exactly then (`same_iff_get?_eq`), whatever was
added to either of them, and in which order.
-/
namespace RestBindings

/-- **What adding a model can do**: take the place of the model with its name, or come to the end. -/
theorem exchangeModel_cases (m : Model) (l : List Model) :
    (∃ before n after, l = before ++ n :: after ∧ n.name = m.name ∧ (∀ x ∈ before, x.name ≠ m.name) ∧
      exchangeModel m l = (some n, before ++ m :: after)) ∨
    ((∀ x ∈ l, x.name ≠ m.name) ∧ exchangeModel m l = (none, l ++ [m])) := by
  induction l with
  | nil => exact .inr ⟨by simp, rfl⟩
  | cons x rest ih =>
    rw [exchangeModel]
    by_cases hx : x.name = m.name
    · rw [if_pos hx]
      exact .inl ⟨[], x, rest, rfl, hx, by simp, rfl⟩
    · rw [if_neg hx]
      obtain ⟨before, n, after, rfl, hn, hbefore, heq⟩ | ⟨hrest, heq⟩ := ih
      · refine .inl ⟨x :: before, n, after, rfl, hn, ?_, by rw [heq]; rfl⟩
        exact List.forall_mem_cons.mpr ⟨hx, hbefore⟩
      · exact .inr ⟨List.forall_mem_cons.mpr ⟨hx, hrest⟩, by rw [heq]; rfl⟩

namespace Models

/-! ## One model more -/

section Step

variable (models : Models) (m : Model)

theorem exchange_snd : (models.exchange m).2 = models.insert m := by
  simp only [exchange, insert, exchangeModel_snd]

/-- What adding a model can do to a collection. -/
theorem exchange_cases :
    (∃ before n after, models.toList = before ++ n :: after ∧ n.name = m.name ∧
      (∀ x ∈ before, x.name ≠ m.name) ∧ (models.exchange m).1 = some n ∧
      (models.insert m).toList = before ++ m :: after) ∨
    ((∀ x ∈ models.toList, x.name ≠ m.name) ∧ (models.exchange m).1 = none ∧
      (models.insert m).toList = models.toList ++ [m]) := by
  have hinsert : (models.insert m).toList = (exchangeModel m models.toList).2 :=
    (exchangeModel_snd m models.toList).symm
  have hreplaced : (models.exchange m).1 = (exchangeModel m models.toList).1 := rfl
  rw [hinsert, hreplaced]
  obtain ⟨before, n, after, hlist, hn, hbefore, heq⟩ | ⟨hfresh, heq⟩ :=
    exchangeModel_cases m models.toList
  · exact .inl ⟨before, n, after, hlist, hn, hbefore, by rw [heq], by rw [heq]⟩
  · exact .inr ⟨hfresh, by rw [heq], by rw [heq]⟩

/-- A model is replaced by one of its name, and given back. -/
theorem exchange_fst : (models.exchange m).1 = models.get? m.name := by
  rw [get?]
  obtain ⟨before, n, after, hlist, hn, hbefore, hreplaced, -⟩ | ⟨hfresh, hreplaced, -⟩ :=
    models.exchange_cases m
  · have hnone : before.find? (·.name == m.name) = none := by simpa using hbefore
    rw [hreplaced, hlist, List.find?_append, hnone, Option.none_or,
      List.find?_cons_of_pos (by simp [hn])]
  · have hnone : models.toList.find? (·.name == m.name) = none := by simpa using hfresh
    rw [hreplaced, hnone]

/-- A name keeps its place, and a new one comes to the end. -/
theorem names_insert :
    (models.insert m).names =
      if m.name ∈ models.names then models.names else models.names ++ [m.name] := by
  rw [names, names]
  obtain ⟨before, n, after, hlist, hn, -, -, hinsert⟩ | ⟨hfresh, -, hinsert⟩ :=
    models.exchange_cases m
  · rw [hinsert, hlist, if_pos (List.mem_map.mpr ⟨n, by simp, hn⟩)]
    simp [hn]
  · rw [hinsert, if_neg (by simpa using hfresh), List.map_append, List.map_singleton]

/-- The model added is found under its name, and under any other name what was found before. -/
theorem get?_insert (name : String) :
    (models.insert m).get? name = if m.name = name then some m else models.get? name := by
  by_cases hname : m.name = name
  · rw [if_pos hname]
    refine get?_eq_some_iff.mpr ⟨?_, hname⟩
    obtain ⟨before, n, after, -, -, -, -, hinsert⟩ | ⟨-, -, hinsert⟩ := models.exchange_cases m
    · rw [hinsert]
      exact List.mem_append_right before List.mem_cons_self
    · rw [hinsert]
      exact List.mem_append_right models.toList List.mem_cons_self
  · rw [if_neg hname, get?, get?]
    obtain ⟨before, n, after, hlist, hn, -, -, hinsert⟩ | ⟨-, -, hinsert⟩ := models.exchange_cases m
    · -- neither the model added nor the one it replaced has the name
      rw [hinsert, hlist, List.find?_append, List.find?_append,
        List.find?_cons_of_neg (by simpa using hname),
        List.find?_cons_of_neg (by simpa [hn] using hname)]
    · rw [hinsert, List.find?_append, List.find?_cons_of_neg (by simpa using hname), List.find?_nil,
        Option.or_none]

end Step

/-! ## A whole history -/

/-- The last model with a name among the models added. -/
def lastNamed? (added : List Model) (name : String) : Option Model :=
  (added.filter (·.name == name)).getLast?

theorem lastNamed?_concat (added : List Model) (m : Model) (name : String) :
    lastNamed? (added ++ [m]) name = if m.name = name then some m else lastNamed? added name := by
  rw [lastNamed?, List.filter_append]
  split
  next hname =>
    rw [List.filter_cons_of_pos (by simpa using hname), List.filter_nil, List.getLast?_concat]
  next hname =>
    rw [List.filter_cons_of_neg (by simpa using hname), List.filter_nil, List.append_nil, lastNamed?]

theorem eraseDups_concat (names : List String) (name : String) :
    (names ++ [name]).eraseDups =
      if name ∈ names then names.eraseDups else names.eraseDups ++ [name] := by
  rw [List.eraseDups_append]
  split
  next h => simp [List.removeAll, h]
  next h => simp [List.removeAll, h, List.eraseDups_cons]

/-- What a collection tells of the models that were added to it, one after another. -/
structure Records (models : Models) (added : List Model) : Prop where
  /-- The names, in the order in which they first came. -/
  names_eq : models.names = (added.map Model.name).eraseDups
  /-- Under each name, the model that came last. -/
  get?_eq : ∀ name, models.get? name = lastNamed? added name

theorem records_empty : empty.Records [] where
  names_eq := rfl
  get?_eq _ := rfl

/-- One model more is told of as all others are. -/
theorem Records.insert {models : Models} {added : List Model} (h : models.Records added)
    (m : Model) : (models.insert m).Records (added ++ [m]) where
  names_eq := by
    rw [names_insert, List.map_append, List.map_singleton, eraseDups_concat, h.names_eq]
    simp only [List.mem_eraseDups]
  get?_eq name := by rw [get?_insert, lastNamed?_concat, h.get?_eq]

theorem ofList_concat (added : List Model) (m : Model) :
    ofList (added ++ [m]) = (ofList added).insert m := by
  rw [ofList, List.foldl_append]
  rfl

/-- **What is told of a whole history**, by induction from its end. -/
theorem records_ofList (added : List Model) : (ofList added).Records added := by
  induction added using List.reverseRecOn with
  | nil => exact records_empty
  | append_singleton added m ih =>
    rw [ofList_concat]
    exact ih.insert m

/-! ## What is read off a collection -/

section Reading

variable (models : Models)

/-- Going through the models is going through the names and looking each of them up. -/
theorem map_get?_names : models.names.map models.get? = models.toList.map some := by
  rw [names, List.map_map]
  exact List.map_congr_left fun m hm => get?_eq_some_iff.mpr ⟨hm, rfl⟩

theorem size_eq_card_names : models.size = models.names.toFinset.card := by
  rw [List.toFinset_card_of_nodup models.names_nodup, names, List.length_map, size]

end Reading

section Same

variable {a b : Models}

theorem nodup_toList (models : Models) : models.toList.Nodup := .of_map _ models.nodup_names

/-- The same models are the same list in some order: as many models, each of them in the other. -/
theorem perm_of_same (h : a.Same b) : a.toList.Perm b.toList := by
  obtain ⟨hsize, hmem⟩ := h
  have hsubset : a.toList ⊆ b.toList := fun m hm => (get?_eq_some_iff.mp (hmem m hm)).1
  exact (List.subperm_of_subset a.nodup_toList hsubset).perm_of_length_le hsize.ge

theorem perm_of_get?_eq (h : ∀ name, a.get? name = b.get? name) : a.toList.Perm b.toList := by
  refine (List.perm_ext_iff_of_nodup a.nodup_toList b.nodup_toList).mpr fun m => ?_
  have hmem (models : Models) : m ∈ models.toList ↔ models.get? m.name = some m := by
    rw [get?_eq_some_iff, and_iff_left rfl]
  rw [hmem, hmem, h]

/-- **Collections are the same** exactly if they give the same model under every name. -/
theorem same_iff_get?_eq : a.Same b ↔ ∀ name, a.get? name = b.get? name :=
  ⟨fun h => get?_of_perm (perm_of_same h), fun h => same_of_perm (perm_of_get?_eq h)⟩

end Same

/-- All that is told of the models that were added to a collection, one after another. -/
structure Collects (models : Models) (added : List Model) : Prop extends models.Records added where
  /-- No name is listed twice. -/
  names_nodup : models.names.Nodup
  /-- What is found under a name has that name. -/
  name_of_get? : ∀ name m, models.get? name = some m → m.name = name
  /-- The models come in the order of the names, each as it is found. -/
  toList_eq : models.toList.map some = models.names.map models.get?
  /-- There is a model with a name exactly if one was added. -/
  contains_iff_added : ∀ name, models.contains name = true ↔ ∃ m ∈ added, m.name = name
  /-- Adding one more gives back what was found under its name. -/
  exchange_eq : ∀ m, models.exchange m = (models.get? m.name, ofList (added ++ [m]))
  /-- There are as many models as different names. -/
  size_eq : models.size = (added.map Model.name).toFinset.card

/-- **A collection tells its history**: the names that were added, in the order in which they first
came, and under each name the model that came last.  Two histories make the same collection exactly
if they leave the same model under every name. -/
theorem ofList_collects (added added' : List Model) :
    (ofList added).Collects added ∧
    ((ofList added).Same (ofList added') ↔
      ∀ name, (ofList added).get? name = (ofList added').get? name) := by
  have hrecords := records_ofList added
  refine ⟨{ hrecords with
    names_nodup := (ofList added).names_nodup
    name_of_get? := fun name m h => (get?_eq_some_iff.mp h).2
    toList_eq := (map_get?_names _).symm
    contains_iff_added := fun name => by
      rw [contains_iff, hrecords.names_eq, List.mem_eraseDups, List.mem_map]
    exchange_eq := fun m => ?_
    size_eq := ?_ }, same_iff_get?_eq⟩
  · rw [ofList_concat, ← exchange_fst, ← exchange_snd]
  · rw [size_eq_card_names, hrecords.names_eq]
    congr 1
    ext name
    rw [List.mem_toFinset, List.mem_toFinset, List.mem_eraseDups]

end Models
end RestBindings
