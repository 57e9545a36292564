import RestBindings.Code.Declaration
import RestBindings.Naming.Identifier
import RestBindings.Proofs.Text.Quoted

/-! # The forms of generated lines

A template writes its lines around names and texts that are not its own.  A **form** says how: which
texts of a line are the template's own, and where a quoted text or a name stands between them
(`Form.Matches`).  What is quoted or has only characters of an identifier cannot end a line, so a
text of a form is on one line if the template's own texts are (`Form.not_mem_of_matches`).

`Fits` says of fragments that all that they write as it is given, the lines and what opens and closes
blocks, has one of a list of forms.  Documentation comments are left out.
-/
namespace RestBindings
namespace Code

/-- The form of a text. -/
inductive Form where
  /-- One of a few texts of the template's own. -/
  | oneOf (texts : List String)
  /-- Any text, quoted. -/
  | quoted
  /-- Any name: characters that an identifier can hold. -/
  | name
  /-- Two forms, one after the other. -/
  | append (first rest : Form)
  /-- Any of two forms. -/
  | either (first other : Form)
  /-- Items of a form, with commas between them. -/
  | listed (item : Form)
deriving DecidableEq, Repr

namespace Form

instance : Append Form := ⟨append⟩

/-- A text of the template's own. -/
def own (s : String) : Form := oneOf [s]

/-- A text has the form. -/
def Matches : Form → String → Prop
  | oneOf texts, t => t ∈ texts
  | quoted, t => ∃ s, t = Text.quote s
  | name, t => t ≠ "" ∧ ∀ c ∈ t.toList, Naming.isIdentifierPart c = true
  | append first rest, t => ∃ u v, t = u ++ v ∧ first.Matches u ∧ rest.Matches v
  | either first other, t => first.Matches t ∨ other.Matches t
  | listed item, t => ∃ items, t = String.intercalate ", " items ∧ ∀ s ∈ items, item.Matches s

theorem matches_own (s : String) : (own s).Matches s := List.mem_singleton_self s

theorem matches_quoted (s : String) : quoted.Matches (Text.quote s) := ⟨s, rfl⟩

theorem Matches.append {first rest : Form} {s t : String} (hs : first.Matches s)
    (ht : rest.Matches t) : (first ++ rest).Matches (s ++ t) :=
  ⟨s, t, rfl, hs, ht⟩

theorem matches_listed {item : Form} {items : List String} (h : ∀ s ∈ items, item.Matches s) :
    (listed item).Matches (String.intercalate ", " items) :=
  ⟨items, rfl, h⟩

/-! ## One line -/

/-- The template's own texts in a form hold no line feed. -/
def isOneLine : Form → Bool
  | oneOf texts => texts.all fun s => !s.toList.contains '\n'
  | quoted => true
  | name => true
  | append first rest => first.isOneLine && rest.isOneLine
  | either first other => first.isOneLine && other.isOneLine
  | listed item => item.isOneLine

theorem not_mem_quoteChars (cs : List Char) : '\n' ∉ Text.quoteChars cs :=
  fun h => absurd (Text.not_control_of_mem_quoteChars h) (by decide)

theorem not_mem_intercalate {items : List String} (h : ∀ s ∈ items, '\n' ∉ s.toList) :
    '\n' ∉ (String.intercalate ", " items).toList := by
  induction items with
  | nil => decide
  | cons s rest ih =>
    rw [List.forall_mem_cons] at h
    cases rest with
    | nil => exact h.1
    | cons t rest =>
      rw [String.intercalate_cons_cons, String.toList_append, String.toList_append,
        List.mem_append, List.mem_append, not_or, not_or]
      exact ⟨⟨h.1, by decide⟩, ih h.2⟩

/-- **A text of a form is on one line** if the template's own texts in the form are. -/
theorem not_mem_of_matches {form : Form} {t : String} (hform : form.isOneLine = true)
    (h : form.Matches t) : '\n' ∉ t.toList := by
  induction form generalizing t with
  | oneOf texts => simpa using List.all_eq_true.mp hform t h
  | quoted =>
    obtain ⟨s, rfl⟩ := h
    rw [Text.toList_quote]
    exact not_mem_quoteChars s.toList
  | name => exact fun hmem => absurd (h.2 _ hmem) (by decide)
  | append first rest ihfirst ihrest =>
    obtain ⟨hfirst, hrest⟩ := Bool.and_eq_true_iff.mp hform
    obtain ⟨u, v, rfl, hu, hv⟩ := h
    rw [String.toList_append, List.mem_append, not_or]
    exact ⟨ihfirst hfirst hu, ihrest hrest hv⟩
  | either first other ihfirst ihother =>
    obtain ⟨hfirst, hother⟩ := Bool.and_eq_true_iff.mp hform
    exact h.elim (ihfirst hfirst) (ihother hother)
  | listed item ih =>
    obtain ⟨items, rfl, hitems⟩ := h
    exact not_mem_intercalate fun s hs => ih hform (hitems s hs)

end Form

/-! ## The texts of fragments -/

mutual

/-- What a fragment writes as it is given: lines, what opens and what closes blocks, and raw text. -/
def Fragment.texts : Fragment → List String
  | .line s => [s]
  | .blank => []
  | .raw s => [s]
  | .block header body close => header :: textsAll body ++ close.toList
  | .indented body => textsAll body
  | .sequence body => textsAll body
  | .doc _ => []

/-- What fragments write as it is given. -/
def Fragment.textsAll : List Fragment → List String
  | [] => []
  | f :: rest => f.texts ++ textsAll rest

end

/-- A text has one of the forms. -/
def HasForm (forms : List Form) (t : String) : Prop := ∃ form ∈ forms, form.Matches t

/-- All texts of the fragments have one of the forms. -/
def Fits (forms : List Form) (fragments : List Fragment) : Prop :=
  ∀ t ∈ Fragment.textsAll fragments, HasForm forms t

section Fits

variable {forms : List Form} {fragments rest : List Fragment}

@[simp] theorem fits_nil : Fits forms [] := nofun

theorem fits_cons {f : Fragment} :
    Fits forms (f :: rest) ↔ (∀ t ∈ f.texts, HasForm forms t) ∧ Fits forms rest := by
  simp only [Fits, Fragment.textsAll, List.mem_append, or_imp, forall_and]

@[simp] theorem fits_line {s : String} :
    Fits forms (.line s :: rest) ↔ HasForm forms s ∧ Fits forms rest := by
  simp [fits_cons, Fragment.texts]

theorem fits_one_line {s : String} : Fits forms [.line s] ↔ HasForm forms s := by
  simp

@[simp] theorem fits_blank : Fits forms (.blank :: rest) ↔ Fits forms rest := by
  simp [fits_cons, Fragment.texts]

@[simp] theorem fits_doc {text : String} : Fits forms (.doc text :: rest) ↔ Fits forms rest := by
  simp [fits_cons, Fragment.texts]

@[simp] theorem fits_block {header close : String} {body : List Fragment} :
    Fits forms (.block header body (some close) :: rest) ↔
      HasForm forms header ∧ Fits forms body ∧ HasForm forms close ∧ Fits forms rest := by
  rw [fits_cons]
  simp only [Fragment.texts, Option.toList_some, List.mem_append, List.mem_cons, List.not_mem_nil,
    or_false, or_imp, forall_and, forall_eq, Fits, and_assoc]

@[simp] theorem fits_append :
    Fits forms (fragments ++ rest) ↔ Fits forms fragments ∧ Fits forms rest := by
  induction fragments with
  | nil => simp
  | cons f fragments ih => rw [List.cons_append, fits_cons, fits_cons, ih, and_assoc]

theorem fits_flatMap {α : Type} {l : List α} {f : α → List Fragment} :
    Fits forms (l.flatMap f) ↔ ∀ a ∈ l, Fits forms (f a) := by
  induction l with
  | nil => simp
  | cons a l ih => rw [List.flatMap_cons, fits_append, List.forall_mem_cons, ih]

/-- Lines, some of which may be left blank. -/
theorem fits_map {lines : List String} {p : String → Bool} (h : ∀ l ∈ lines, HasForm forms l) :
    Fits forms (lines.map fun l => if p l then .blank else .line l) := by
  induction lines with
  | nil => simp
  | cons l lines ih =>
    rw [List.forall_mem_cons] at h
    rw [List.map_cons]
    split
    · exact fits_blank.mpr (ih h.2)
    · exact fits_line.mpr ⟨h.1, ih h.2⟩

theorem fits_map_line {lines : List String} (h : ∀ l ∈ lines, HasForm forms l) :
    Fits forms (lines.map .line) := by
  simpa using fits_map (p := fun _ => false) h

theorem fits_ofLines {lines : List String} (h : ∀ l ∈ lines, HasForm forms l) :
    Fits forms (Fragment.ofLines lines) :=
  fits_map h

theorem fits_function {f : Function} (hhead : HasForm forms f.head)
    (hbody : ∀ l ∈ f.body, HasForm forms l) (hclose : HasForm forms "\x7d") :
    Fits forms f.fragments := by
  rw [Function.fragments, docFragments]
  cases f.doc <;> simp [hhead, hclose, fits_map hbody]

theorem fits_propertyFragments {object : Object}
    (h : ∀ p ∈ object, Fits forms [Object.propertyFragment p.1 p.2]) :
    Fits forms (Object.propertyFragments object) := by
  induction object with
  | nil => exact fits_nil
  | cons p object ih =>
    rw [List.forall_mem_cons, fits_cons] at h
    rw [Object.propertyFragments, fits_cons]
    exact ⟨h.1.1, ih h.2⟩

theorem fits_joined {items : List (List Fragment)} (h : ∀ item ∈ items, Fits forms item) :
    Fits forms (File.joined items) := by
  induction items with
  | nil => simp [File.joined]
  | cons item rest ih =>
    rw [List.forall_mem_cons] at h
    cases rest with
    | nil => exact h.1
    | cons next rest =>
      rw [File.joined, fits_append, fits_blank]
      exact ⟨h.1, ih h.2⟩

end Fits
end Code
end RestBindings
