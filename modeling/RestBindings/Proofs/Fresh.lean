import Mathlib.Data.List.Nodup

/-! # Names taken one after the other

Models take identifiers, methods take keys and parameters take variables, each in order and each only
if it is free.  All names can be taken exactly when they are `Fresh`: no two of them are the same, and
none was taken before.  `takeAll` is the walk that takes names from a table of what is taken, and
`takeAll_cases` opens it: it takes all names if they are fresh, and otherwise stops at the first that
is taken, with the one who took it (`takeAll_eq_error_iff`).
-/
namespace RestBindings

/-- Names that can be taken one after the other, after those that are taken. -/
structure Fresh (taken names : List String) : Prop where
  /-- No name comes twice. -/
  nodup : names.Nodup
  /-- No name is taken before. -/
  free : ∀ name ∈ names, name ∉ taken

theorem fresh_nil (taken : List String) : Fresh taken [] := ⟨List.nodup_nil, by simp⟩

theorem fresh_of_nothing_taken {names : List String} : Fresh [] names ↔ names.Nodup :=
  ⟨Fresh.nodup, fun h => ⟨h, by simp⟩⟩

theorem fresh_map_iff {α : Type} {f : α → String} {taken : List String} {l : List α} :
    Fresh taken (l.map f) ↔ (l.map f).Nodup ∧ ∀ a ∈ l, f a ∉ taken := by
  rw [← List.forall_mem_map (P := (· ∉ taken))]
  exact ⟨fun h => ⟨h.nodup, h.free⟩, fun h => ⟨h.1, h.2⟩⟩

/-- The first name has to be free, and is taken for the others. -/
theorem fresh_cons_iff {taken rest : List String} {name : String} :
    Fresh taken (name :: rest) ↔ name ∉ taken ∧ Fresh (taken ++ [name]) rest := by
  constructor
  · rintro ⟨hnodup, hfree⟩
    obtain ⟨hname, hnodup⟩ := List.nodup_cons.mp hnodup
    refine ⟨hfree name List.mem_cons_self, hnodup, fun other hother htaken => ?_⟩
    rcases List.mem_append.mp htaken with h | h
    · exact hfree other (List.mem_cons_of_mem name hother) h
    · exact hname (List.mem_singleton.mp h ▸ hother)
  · rintro ⟨hname, hnodup, hfree⟩
    refine ⟨List.nodup_cons.mpr ⟨fun h => ?_, hnodup⟩, fun other hother htaken => ?_⟩
    · exact hfree name h (List.mem_append_right taken List.mem_cons_self)
    · rcases List.mem_cons.mp hother with rfl | h
      · exact hname htaken
      · exact hfree other h (List.mem_append_left [name] htaken)

/-- Names can be taken before others if those can be taken after them. -/
theorem Fresh.append {taken first rest : List String} (hfirst : Fresh taken first)
    (hrest : Fresh (taken ++ first) rest) : Fresh taken (first ++ rest) := by
  refine ⟨List.nodup_append.mpr ⟨hfirst.nodup, hrest.nodup, ?_⟩, ?_⟩
  · intro name hname other hother heq
    exact hrest.free other hother (List.mem_append_right taken (heq ▸ hname))
  · intro name hname
    rcases List.mem_append.mp hname with h | h
    · exact hfirst.free name h
    · exact fun htaken => hrest.free name h (List.mem_append_left first htaken)

/-- A name that is taken by then cannot be taken again. -/
theorem Fresh.not_mem_of_append {taken before after : List String} {name : String}
    (h : Fresh taken (before ++ name :: after)) : name ∉ taken ++ before := by
  obtain ⟨hnodup, hfree⟩ := h
  intro hmem
  rcases List.mem_append.mp hmem with hmem | hmem
  · exact hfree name (List.mem_append_right before List.mem_cons_self) hmem
  · exact (List.nodup_append.mp hnodup).2.2 name hmem name List.mem_cons_self rfl

/-! ## The walk -/

section Walk

variable {α β ε : Type}

theorem lookup_eq_none_iff_not_mem_keys {l : List (String × β)} {key : String} :
    l.lookup key = none ↔ key ∉ l.map Prod.fst := by
  rw [List.lookup_eq_none_iff]
  constructor
  · intro h hmem
    obtain ⟨p, hp, rfl⟩ := List.mem_map.mp hmem
    simpa using h p hp
  · intro h p hp
    exact bne_iff_ne.mpr fun heq => h (heq ▸ List.mem_map_of_mem hp)

theorem mem_of_lookup_eq_some {l : List (String × β)} {key : String} {value : β}
    (h : l.lookup key = some value) : (key, value) ∈ l := by
  obtain ⟨before, after, rfl, -⟩ := List.lookup_eq_some_iff.mp h
  exact List.mem_append_right before List.mem_cons_self

/-- In a table without repeated keys, what is entered is looked up. -/
theorem lookup_eq_some_of_mem {l : List (String × β)} {key : String} {value : β}
    (hnodup : (l.map Prod.fst).Nodup) (h : (key, value) ∈ l) : l.lookup key = some value := by
  obtain ⟨before, after, rfl⟩ := List.append_of_mem h
  rw [List.map_append, List.map_cons] at hnodup
  refine List.lookup_eq_some_iff.mpr ⟨before, after, rfl, fun p hp => bne_iff_ne.mpr fun heq => ?_⟩
  exact (List.nodup_append.mp hnodup).2.2 p.1 (List.mem_map_of_mem hp) key List.mem_cons_self
    heq.symm

/-- A table of names, each with a value that the name determines. -/
theorem lookup_map_iff {value : String → β} {names : List String} {key : String} {found : β} :
    (names.map fun name => (name, value name)).lookup key = some found ↔
      key ∈ names ∧ found = value key := by
  induction names with
  | nil => simp
  | cons name rest ih =>
    rw [List.map_cons, List.lookup_cons, List.mem_cons]
    by_cases hname : key = name
    · simp [hname, eq_comm]
    · rw [beq_eq_false_iff_ne.mpr hname, or_iff_right hname]
      exact ih

variable (entry : α → String × β) (conflict : α → β → ε)

/-- Enter all of a list into a table, unless a name is taken by then. -/
def takeAll (taken : List (String × β)) : List α → Except ε (List (String × β))
  | [] => .ok taken
  | a :: rest =>
    match taken.lookup (entry a).1 with
    | some first => .error (conflict a first)
    | none => takeAll (taken ++ [entry a]) rest

/-- Names that are fresh are entered, and the walk goes on with the rest. -/
theorem takeAll_append_of_fresh {taken : List (String × β)} {before : List α}
    (h : Fresh (taken.map Prod.fst) (before.map fun a => (entry a).1)) (rest : List α) :
    takeAll entry conflict taken (before ++ rest) =
      takeAll entry conflict (taken ++ before.map entry) rest := by
  induction before generalizing taken with
  | nil => simp
  | cons a before ih =>
    obtain ⟨hfree, hbefore⟩ := fresh_cons_iff.mp h
    have hkeys : (taken ++ [entry a]).map Prod.fst = taken.map Prod.fst ++ [(entry a).1] := by simp
    calc takeAll entry conflict taken (a :: (before ++ rest))
        = takeAll entry conflict (taken ++ [entry a]) (before ++ rest) := by
          rw [takeAll, lookup_eq_none_iff_not_mem_keys.mpr hfree]
      _ = takeAll entry conflict (taken ++ [entry a] ++ before.map entry) rest :=
          ih (hkeys ▸ hbefore)
      _ = takeAll entry conflict (taken ++ (a :: before).map entry) rest := by
          rw [List.map_cons, List.append_assoc, List.singleton_append]

/-- **What the walk can do**: enter all, or stop at the first whose name is taken. -/
theorem takeAll_cases (taken : List (String × β)) (l : List α) :
    (Fresh (taken.map Prod.fst) (l.map fun a => (entry a).1) ∧
      takeAll entry conflict taken l = .ok (taken ++ l.map entry)) ∨
    (∃ before a after first, l = before ++ a :: after ∧
      Fresh (taken.map Prod.fst) (before.map fun a => (entry a).1) ∧
      (taken ++ before.map entry).lookup (entry a).1 = some first ∧
      takeAll entry conflict taken l = .error (conflict a first)) := by
  induction l generalizing taken with
  | nil => exact .inl ⟨fresh_nil _, by simp [takeAll]⟩
  | cons a rest ih =>
    cases hlookup : taken.lookup (entry a).1 with
    | some first =>
      exact .inr ⟨[], a, rest, first, rfl, fresh_nil _, by simpa using hlookup,
        by simp [takeAll, hlookup]⟩
    | none =>
      have hfree := lookup_eq_none_iff_not_mem_keys.mp hlookup
      have hstep : takeAll entry conflict taken (a :: rest) =
          takeAll entry conflict (taken ++ [entry a]) rest := by
        simp [takeAll, hlookup]
      -- the names taken by then grow by that of `a`, at their end
      have hfresh (l : List α)
          (h : Fresh ((taken ++ [entry a]).map Prod.fst) (l.map fun a => (entry a).1)) :
          Fresh (taken.map Prod.fst) ((a :: l).map fun a => (entry a).1) := by
        rw [List.map_append] at h
        exact fresh_cons_iff.mpr ⟨hfree, h⟩
      rw [hstep]
      obtain ⟨hrest, heq⟩ | ⟨before, b, after, first, rfl, hbefore, hfirst, heq⟩ :=
        ih (taken ++ [entry a])
      · exact .inl ⟨hfresh rest hrest, by simpa using heq⟩
      · exact .inr ⟨a :: before, b, after, first, rfl, hfresh before hbefore,
          by simpa using hfirst, heq⟩

/-- The walk enters all of a list exactly when the names are fresh. -/
theorem takeAll_eq_ok_iff {taken table : List (String × β)} {l : List α} :
    takeAll entry conflict taken l = .ok table ↔
      Fresh (taken.map Prod.fst) (l.map fun a => (entry a).1) ∧ table = taken ++ l.map entry := by
  obtain ⟨hfresh, heq⟩ | ⟨before, a, after, first, rfl, -, hfirst, heq⟩ :=
    takeAll_cases entry conflict taken l
  · rw [heq, Except.ok.injEq, and_iff_right hfresh, eq_comm]
  · rw [heq]
    refine iff_of_false (by simp) ?_
    rintro ⟨hfresh, -⟩
    rw [List.map_append, List.map_cons] at hfresh
    apply hfresh.not_mem_of_append
    have htaken := List.mem_map_of_mem (f := Prod.fst) (mem_of_lookup_eq_some hfirst)
    rwa [List.map_append, List.map_map] at htaken

/-- **Where the walk stops**: at the first whose name is taken, and it tells who took the name. -/
theorem takeAll_eq_error_iff {taken : List (String × β)} {l : List α} {e : ε} :
    takeAll entry conflict taken l = .error e ↔ ∃ before a after first, l = before ++ a :: after ∧
      Fresh (taken.map Prod.fst) (before.map fun a => (entry a).1) ∧
      (taken ++ before.map entry).lookup (entry a).1 = some first ∧ e = conflict a first := by
  constructor
  · intro h
    obtain ⟨-, heq⟩ | ⟨before, a, after, first, hl, hbefore, hfirst, heq⟩ :=
      takeAll_cases entry conflict taken l
    · rw [heq] at h
      cases h
    · exact ⟨before, a, after, first, hl, hbefore, hfirst, Except.error.inj (h.symm.trans heq)⟩
  · rintro ⟨before, a, after, first, rfl, hbefore, hfirst, rfl⟩
    rw [takeAll_append_of_fresh entry conflict hbefore, takeAll, hfirst]

end Walk

end RestBindings
