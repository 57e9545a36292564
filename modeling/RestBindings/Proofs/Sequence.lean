import Mathlib.Data.List.Forall2

/-! # Computations that may fail, one after the other

A sequence of computations succeeds when every one of them does, and fails with an error of one of
them.  Rendering is such a sequence: over models, over methods, over stages.  The lemmas here open a
sequence once: by its results, by whether it has any, and by the kind of its errors (`FailsWith`).
Lowering a document is one too, and there it matters which error comes first (`ReportsFirst`).
-/
namespace RestBindings

variable {ε α β : Type}

theorem bind_eq_ok_iff {x : Except ε α} {f : α → Except ε β} {b : β} :
    (x >>= f) = .ok b ↔ ∃ a, x = .ok a ∧ f a = .ok b := by
  cases x <;> simp [bind, Except.bind]

/-- Two computations in sequence succeed when the first does and the second does on its result. -/
theorem exists_bind_eq_ok_iff {x : Except ε α} {f : α → Except ε β} :
    (∃ b, (x >>= f) = .ok b) ↔ ∃ a, x = .ok a ∧ ∃ b, f a = .ok b := by
  cases x <;> simp [bind, Except.bind]

/-- A result that is only reworked succeeds when it is there. -/
theorem exists_bind_pure_eq_ok_iff {x : Except ε α} {f : α → β} :
    (∃ b, (x >>= fun a => pure (f a)) = .ok b) ↔ ∃ a, x = .ok a := by
  cases x <;> simp [bind, Except.bind, pure, Except.pure]

variable {f : α → Except ε β}

/-- A computation for each of a list succeeds when each of them does. -/
theorem exists_mapM_eq_ok_iff {l : List α} :
    (∃ bs, l.mapM f = .ok bs) ↔ ∀ a ∈ l, ∃ b, f a = .ok b := by
  induction l with
  | nil => simp [pure, Except.pure]
  | cons a rest ih =>
    rw [List.mapM_cons, exists_bind_eq_ok_iff, List.forall_mem_cons, ← ih]
    simp only [exists_bind_pure_eq_ok_iff]
    constructor
    · rintro ⟨b, hb, hrest⟩
      exact ⟨⟨b, hb⟩, hrest⟩
    · rintro ⟨⟨b, hb⟩, hrest⟩
      exact ⟨b, hb, hrest⟩

/-- The results of a computation for each of a list stand one for one, in order. -/
theorem mapM_eq_ok_iff {l : List α} {bs : List β} :
    l.mapM f = .ok bs ↔ List.Forall₂ (fun a b => f a = .ok b) l bs := by
  induction l generalizing bs with
  | nil => simp [pure, Except.pure, eq_comm]
  | cons a rest ih =>
    rw [List.mapM_cons, bind_eq_ok_iff, List.forall₂_cons_left_iff]
    simp only [bind_eq_ok_iff, ih, pure, Except.pure, Except.ok.injEq]
    constructor
    · rintro ⟨b, hb, bs', hrest, rfl⟩
      exact ⟨b, bs', hb, hrest, rfl⟩
    · rintro ⟨b, bs', hb, hrest, rfl⟩
      exact ⟨b, hb, bs', hrest, rfl⟩

/-- A result of a list that stands one for one with another comes from a member of it. -/
theorem exists_mem_of_forall₂ {R : α → β → Prop} {l : List α} {bs : List β}
    (h : List.Forall₂ R l bs) {b : β} (hb : b ∈ bs) : ∃ a ∈ l, R a b := by
  induction h with
  | nil => cases hb
  | @cons a b' l bs hab _ ih =>
    rcases List.mem_cons.mp hb with rfl | hb
    · exact ⟨a, List.mem_cons_self, hab⟩
    · obtain ⟨a', ha', hR⟩ := ih hb
      exact ⟨a', List.mem_cons_of_mem a ha', hR⟩

/-- What stands one for one with a list and one more stands with the list, and then with the one. -/
theorem exists_of_forall₂_concat {R : α → β → Prop} {l : List α} {a : α} {bs : List β}
    (h : List.Forall₂ R (l ++ [a]) bs) :
    ∃ before last, List.Forall₂ R l before ∧ R a last ∧ bs = before ++ [last] := by
  induction l generalizing bs with
  | nil =>
    obtain ⟨last, rest, hlast, hrest, rfl⟩ := List.forall₂_cons_left_iff.mp h
    cases hrest
    exact ⟨[], last, .nil, hlast, rfl⟩
  | cons x l ih =>
    obtain ⟨b, rest, hb, hrest, rfl⟩ := List.forall₂_cons_left_iff.mp h
    obtain ⟨before, last, hbefore, hlast, rfl⟩ := ih hrest
    exact ⟨b :: before, last, .cons hb hbefore, hlast, rfl⟩

/-! ## The errors of a sequence -/

/-- All errors that a computation can fail with are of a kind. -/
def FailsWith (kind : ε → Prop) (x : Except ε α) : Prop := ∀ e, x = .error e → kind e

variable {kind : ε → Prop}

theorem failsWith_ok (a : α) : FailsWith kind (.ok a : Except ε α) := by
  intro e h
  cases h

theorem failsWith_error {e : ε} (h : kind e) : FailsWith kind (.error e : Except ε α) := by
  intro e' he
  cases he
  exact h

theorem FailsWith.bind {x : Except ε α} (hx : FailsWith kind x)
    (hf : ∀ a, x = .ok a → FailsWith kind (f a)) : FailsWith kind (x >>= f) := by
  cases x with
  | ok a => exact hf a rfl
  | error e => exact failsWith_error (hx e rfl)

theorem FailsWith.mapM {l : List α} (hf : ∀ a ∈ l, FailsWith kind (f a)) :
    FailsWith kind (l.mapM f) := by
  induction l with
  | nil => exact failsWith_ok []
  | cons a rest ih =>
    rw [List.forall_mem_cons] at hf
    rw [List.mapM_cons]
    exact hf.1.bind fun b _ => (ih hf.2).bind fun bs _ => failsWith_ok (b :: bs)

/-! ## The first fault -/

/-- A computation fails with the first of its faults, and without faults gives a result with a
property. -/
def ReportsFirst (faults : List ε) (gives : α → Prop) (x : Except ε α) : Prop :=
  match faults with
  | [] => ∃ a, x = .ok a ∧ gives a
  | fault :: _ => x = .error fault

section ReportsFirst

variable {faults later : List ε} {gives : α → Prop} {givesLater : β → Prop} {x : Except ε α}

theorem reportsFirst_ok {a : α} (h : gives a) : ReportsFirst ([] : List ε) gives (.ok a) :=
  ⟨a, rfl, h⟩

theorem reportsFirst_error {fault : ε} (h : faults.head? = some fault) :
    ReportsFirst faults gives (.error fault) := by
  obtain ⟨rest, rfl⟩ := List.head?_eq_some_iff.mp h
  rfl

theorem ReportsFirst.imp {gives' : α → Prop} (hx : ReportsFirst faults gives x)
    (h : ∀ a, gives a → gives' a) : ReportsFirst faults gives' x := by
  cases faults with
  | nil =>
    obtain ⟨a, ha, hgives⟩ := hx
    exact ⟨a, ha, h a hgives⟩
  | cons fault rest => exact hx

/-- Faults of a computation come before those of what is done with its result. -/
theorem ReportsFirst.bind (hx : ReportsFirst faults gives x)
    (hf : ∀ a, gives a → ReportsFirst later givesLater (f a)) :
    ReportsFirst (faults ++ later) givesLater (x >>= f) := by
  cases faults with
  | nil =>
    obtain ⟨a, rfl, ha⟩ := hx
    exact hf a ha
  | cons fault rest =>
    have hx : x = .error fault := hx
    rw [hx]
    rfl

/-- Faults of computations for each of a list come in the order of the list. -/
theorem ReportsFirst.mapM {faults : α → List ε} {gives : α → β → Prop} {l : List α}
    (hf : ∀ a ∈ l, ReportsFirst (faults a) (gives a) (f a)) :
    ReportsFirst (l.flatMap faults) (List.Forall₂ gives l) (l.mapM f) := by
  induction l with
  | nil => exact reportsFirst_ok .nil
  | cons a rest ih =>
    rw [List.forall_mem_cons] at hf
    have hpure (b : β) (hb : gives a b) (bs : List β) (hbs : List.Forall₂ gives rest bs) :
        ReportsFirst ([] : List ε) (List.Forall₂ gives (a :: rest)) (pure (b :: bs)) :=
      reportsFirst_ok (.cons hb hbs)
    have hrest (b : β) (hb : gives a b) :
        ReportsFirst (rest.flatMap faults) (List.Forall₂ gives (a :: rest))
          (rest.mapM f >>= fun bs => pure (b :: bs)) := by
      simpa using (ih hf.2).bind (hpure b hb)
    rw [List.mapM_cons, List.flatMap_cons]
    exact hf.1.bind hrest

theorem ReportsFirst.exists_ok_iff (hx : ReportsFirst faults gives x) :
    (∃ a, x = .ok a) ↔ faults = [] := by
  cases faults with
  | nil =>
    obtain ⟨a, ha, -⟩ := hx
    exact iff_of_true ⟨a, ha⟩ rfl
  | cons fault rest =>
    have hx : x = .error fault := hx
    simp [hx]

theorem ReportsFirst.of_eq_ok (hx : ReportsFirst faults gives x) {a : α} (h : x = .ok a) :
    gives a := by
  cases faults with
  | nil =>
    obtain ⟨b, hb, hgives⟩ := hx
    rw [h] at hb
    cases hb
    exact hgives
  | cons fault rest =>
    have hx : x = .error fault := hx
    rw [h] at hx
    cases hx

theorem ReportsFirst.eq_error_iff (hx : ReportsFirst faults gives x) {e : ε} :
    x = .error e ↔ faults.head? = some e := by
  cases faults with
  | nil =>
    obtain ⟨a, ha, -⟩ := hx
    simp [ha]
  | cons fault rest =>
    have hx : x = .error fault := hx
    simp [hx]

end ReportsFirst

end RestBindings
