import RestBindings.Proofs.Client.Arguments
import RestBindings.Proofs.Client.Forms

/-! # Parameter lists

TypeScript reads a parameter list item by item: the commas outside brackets separate parameters, and
a parameter is a name, a `?` if a call may leave it out, and a type (`Parameter.readAll?`).  A list in
which a parameter without the mark follows one with it is refused (`Parameter.MarkedLast`), so an
optional argument cannot simply be marked.

The signature marks the optional arguments that no required one follows, and gives the others a type
that takes `undefined` (`Keeps`).  It is the text of one parameter for each argument (`signature_eq`),
and although types such as `Record<string, any>` bring commas of their own, the text is read back as
these parameters (`Parameter.readAll?_intercalate`).
-/
namespace RestBindings
namespace Client
namespace Fetch

open Code (Form)

/-- A parameter of a function in TypeScript. -/
structure Parameter where
  name : String
  /-- Marked with `?`: a call may leave it out. -/
  isMarked : Bool
  type : String
deriving DecidableEq, Repr

namespace Parameter

/-- What a parameter is written as. -/
def text (p : Parameter) : String :=
  p.name ++ (if p.isMarked then "?: " else ": ") ++ p.type

/-- The order that TypeScript asks for: what follows a marked parameter is marked. -/
def MarkedLast (ps : List Parameter) : Prop :=
  ps.Pairwise fun p q => p.isMarked = true → q.isMarked = true

/-! ## Reading a list -/

/-- The brackets that open. -/
def openers : List Char := ['<', '(', '[', '\x7b']

/-- The brackets that close. -/
def closers : List Char := ['>', ')', ']', '\x7d']

/-- How many brackets are open after a character. -/
def depthAfter (depth : Nat) (c : Char) : Nat :=
  if c ∈ openers then depth + 1 else if c ∈ closers then depth - 1 else depth

/-- The items between the commas that stand in no brackets, where `depth` brackets are open. -/
def itemsAt : Nat → List Char → List (List Char)
  | _, [] => [[]]
  | depth, c :: rest =>
    if c = ',' ∧ depth = 0 then
      [] :: itemsAt 0 rest
    else
      match itemsAt (depthAfter depth c) rest with
      | [] => [[c]]
      | item :: items => (c :: item) :: items

/-- Read a parameter, after any blanks. -/
def read? (item : List Char) : Option Parameter :=
  let item := item.dropWhile (· == ' ')
  let name := item.takeWhile Naming.isIdentifierPart
  if name = [] then none
  else
    match item.dropWhile Naming.isIdentifierPart with
    | '?' :: ':' :: ' ' :: type => some ⟨String.ofList name, true, String.ofList type⟩
    | ':' :: ' ' :: type => some ⟨String.ofList name, false, String.ofList type⟩
    | _ => none

/-- **Read a parameter list.** -/
def readAll? (list : String) : Option (List Parameter) :=
  if list = "" then some [] else (itemsAt 0 list.toList).mapM read?

/-! ## Reading what is written -/

/-- How many brackets are open after a text, if no comma of it separates items. -/
def depthThrough? : Nat → List Char → Option Nat
  | depth, [] => some depth
  | depth, c :: rest =>
    if c = ',' ∧ depth = 0 then none else depthThrough? (depthAfter depth c) rest

theorem depthThrough?_append (depth : Nat) (first rest : List Char) :
    depthThrough? depth (first ++ rest) =
      (depthThrough? depth first).bind fun depth => depthThrough? depth rest := by
  induction first generalizing depth with
  | nil => rfl
  | cons c first ih =>
    rw [List.cons_append, depthThrough?, depthThrough?]
    split
    · rfl
    · exact ih _

/-- A text whose commas separate nothing belongs to the item that follows it. -/
theorem itemsAt_append {depth depth' : Nat} {first rest item : List Char} {items : List (List Char)}
    (h : depthThrough? depth first = some depth') (hrest : itemsAt depth' rest = item :: items) :
    itemsAt depth (first ++ rest) = (first ++ item) :: items := by
  induction first generalizing depth with
  | nil =>
    cases h
    exact hrest
  | cons c first ih =>
    rw [depthThrough?] at h
    split at h
    · cases h
    next hcomma =>
      rw [List.cons_append, itemsAt, if_neg hcomma, ih h]
      rfl

/-- **Texts joined by commas are the items**, if no comma of theirs separates any. -/
theorem itemsAt_intercalate {s : String} {rest : List String}
    (h : ∀ t ∈ s :: rest, depthThrough? 0 t.toList = some 0) :
    itemsAt 0 (String.intercalate ", " (s :: rest)).toList =
      s.toList :: rest.map fun t => ' ' :: t.toList := by
  induction rest generalizing s with
  | nil =>
    have hitems : itemsAt 0 (s.toList ++ []) = [s.toList ++ []] :=
      itemsAt_append (h s List.mem_cons_self) rfl
    simpa using hitems
  | cons t rest ih =>
    rw [List.forall_mem_cons] at h
    have hblank : depthThrough? 0 [' '] = some 0 := by decide
    have hfollowing := itemsAt_append hblank (ih h.2)
    have hcomma (cs : List Char) : itemsAt 0 (',' :: cs) = [] :: itemsAt 0 cs := by
      simp [itemsAt]
    have hchars : (String.intercalate ", " (s :: t :: rest)).toList =
        s.toList ++ ',' :: ([' '] ++ (String.intercalate ", " (t :: rest)).toList) := by
      simp [String.intercalate_cons_cons]
    rw [hchars, itemsAt_append h.1 ((hcomma _).trans (congrArg _ hfollowing))]
    simp

/-- A character of a name is none of the marks that a name cannot have. -/
theorem not_mem_of_isIdentifierPart {c : Char} {marks : List Char}
    (hmarks : (marks.all fun d => !Naming.isIdentifierPart d) = true)
    (h : Naming.isIdentifierPart c = true) : c ∉ marks := by
  intro hc
  have hmark := List.all_eq_true.mp hmarks c hc
  rw [h] at hmark
  cases hmark

/-- A name brings no brackets and no commas. -/
theorem depthThrough?_name {name : List Char} (h : ∀ c ∈ name, Naming.isIdentifierPart c = true)
    (depth : Nat) : depthThrough? depth name = some depth := by
  induction name with
  | nil => rfl
  | cons c name ih =>
    rw [List.forall_mem_cons] at h
    have hcomma : c ∉ [','] := not_mem_of_isIdentifierPart (by decide) h.1
    have hopen : c ∉ openers := not_mem_of_isIdentifierPart (by decide) h.1
    have hclose : c ∉ closers := not_mem_of_isIdentifierPart (by decide) h.1
    have hseparates : ¬ (c = ',' ∧ depth = 0) :=
      fun hc => hcomma (List.mem_singleton.mpr hc.1)
    rw [depthThrough?, if_neg hseparates, depthAfter, if_neg hopen, if_neg hclose]
    exact ih h.2

/-- A parameter that is one item of a list: a name, and a type that closes its brackets. -/
structure IsItem (p : Parameter) : Prop where
  name : Form.name.Matches p.name
  type : depthThrough? 0 p.type.toList = some 0

theorem IsItem.depthThrough?_text {p : Parameter} (h : p.IsItem) :
    depthThrough? 0 p.text.toList = some 0 := by
  have hmark : depthThrough? 0 (if p.isMarked then "?: " else ": ").toList = some 0 := by
    cases p.isMarked <;> decide
  rw [text, String.toList_append, String.toList_append, depthThrough?_append, depthThrough?_append,
    depthThrough?_name h.name.2, Option.bind_some, hmark, Option.bind_some, h.type]

/-- What is written of a parameter starts with a character of its name. -/
theorem IsItem.exists_cons {p : Parameter} (h : p.IsItem) :
    ∃ c rest, p.text.toList = c :: rest ∧ Naming.isIdentifierPart c = true := by
  obtain ⟨hne, hparts⟩ := h.name
  have hname : p.name.toList ≠ [] := fun hnil => hne (String.toList_eq_nil_iff.mp hnil)
  obtain ⟨c, rest, hcons⟩ := List.exists_cons_of_ne_nil hname
  rw [hcons] at hparts
  refine ⟨c, rest ++ (if p.isMarked then "?: " else ": ").toList ++ p.type.toList, ?_,
    hparts c List.mem_cons_self⟩
  rw [text, String.toList_append, String.toList_append, hcons]
  rfl

/-- A parameter is read as it was written, after any blanks. -/
theorem IsItem.read?_text {p : Parameter} (h : p.IsItem) {blanks : List Char}
    (hblanks : ∀ c ∈ blanks, (c == ' ') = true) : read? (blanks ++ p.text.toList) = some p := by
  have hskip : (blanks ++ p.text.toList).dropWhile (· == ' ') = p.text.toList := by
    obtain ⟨c, rest, hcons, hc⟩ := h.exists_cons
    have hblank : c ∉ [' '] := not_mem_of_isIdentifierPart (by decide) hc
    rw [List.dropWhile_append_of_pos hblanks, hcons,
      List.dropWhile_cons_of_neg (by simpa using hblank)]
  obtain ⟨name, isMarked, type⟩ := p
  obtain ⟨hne, hparts⟩ := h.name
  have hquestion : Naming.isIdentifierPart '?' = false := by decide
  have hcolon : Naming.isIdentifierPart ':' = false := by decide
  rw [read?, hskip, text, String.toList_append, String.toList_append, List.append_assoc,
    List.takeWhile_append_of_pos hparts, List.dropWhile_append_of_pos hparts]
  cases isMarked with
  | true => simp [hquestion, hne]
  | false => simp [hcolon, hne]

/-- The parameters after the first come after a blank. -/
theorem mapM_read?_text {ps : List Parameter} (h : ∀ p ∈ ps, p.IsItem) :
    (ps.map fun p => ' ' :: p.text.toList).mapM read? = some ps := by
  induction ps with
  | nil => rfl
  | cons p rest ih =>
    rw [List.forall_mem_cons] at h
    have hfirst : read? (' ' :: p.text.toList) = some p :=
      h.1.read?_text (List.forall_mem_singleton.mpr rfl)
    rw [List.map_cons, List.mapM_cons, hfirst, ih h.2]
    rfl

/-- **A written parameter list is read back.** -/
theorem readAll?_intercalate {ps : List Parameter} (h : ∀ p ∈ ps, p.IsItem) :
    readAll? (String.intercalate ", " (ps.map text)) = some ps := by
  cases ps with
  | nil => rfl
  | cons p rest =>
    have hdepth : ∀ t ∈ p.text :: rest.map text, depthThrough? 0 t.toList = some 0 := by
      rw [← List.map_cons, List.forall_mem_map]
      exact fun q hq => (h q hq).depthThrough?_text
    have hitems := itemsAt_intercalate hdepth
    rw [List.map_map] at hitems
    rw [List.forall_mem_cons] at h
    have hne : String.intercalate ", " (p.text :: rest.map text) ≠ "" := by
      intro hempty
      obtain ⟨c, cs, hcons, -⟩ := h.1.exists_cons
      rw [hempty, hcons] at hitems
      cases hitems
    have hfirst : read? ([] ++ p.text.toList) = some p := h.1.read?_text nofun
    rw [List.nil_append] at hfirst
    have hrest := mapM_read?_text h.2
    rw [List.map_cons, readAll?, if_neg hne, hitems, List.mapM_cons, hfirst]
    simp only [Function.comp_def, hrest]
    rfl

example : readAll? "filter: Record<string, any> | undefined, id: any, options?: any" =
    some [⟨"filter", false, "Record<string, any> | undefined"⟩, ⟨"id", false, "any"⟩,
      ⟨"options", true, "any"⟩] := by
  decide +kernel

end Parameter

/-! ## The parameters of a signature -/

/-- The parameter that an argument becomes. -/
def parameterOf (a : Argument) (requiredFollows : Bool) : Parameter where
  name := a.name
  isMarked := !a.param.required && !requiredFollows
  type := scriptType a.param.type ++
    if !a.param.required && requiredFollows then " | undefined" else ""

/-- The parameters that arguments become, in order. -/
def parameters : List Argument → List Parameter
  | [] => []
  | a :: rest => parameterOf a (rest.any (·.param.required)) :: parameters rest

theorem text_parameterOf (a : Argument) (requiredFollows : Bool) :
    (parameterOf a requiredFollows).text = formal a requiredFollows := by
  rw [Parameter.text, parameterOf, formal]
  cases a.param.required <;> cases requiredFollows <;> simp [String.append_assoc]

/-- **A signature is the text of its parameters.** -/
theorem signature_eq (args : List Argument) :
    signature args = String.intercalate ", " ((parameters args).map Parameter.text) := by
  have hformals : formals args = (parameters args).map Parameter.text := by
    induction args with
    | nil => rfl
    | cons a rest ih => rw [formals, parameters, List.map_cons, text_parameterOf, ih]
  rw [signature, hformals]

theorem length_parameters (args : List Argument) : (parameters args).length = args.length := by
  induction args with
  | nil => rfl
  | cons a rest ih => rw [parameters, List.length_cons, List.length_cons, ih]

/-- What becomes of an argument that the arguments `after` follow. -/
structure Keeps (a : Argument) (after : List Argument) (p : Parameter) : Prop where
  name : p.name = a.name
  /-- A required argument has its type and no mark. -/
  required : a.param.required = true → p.isMarked = false ∧ p.type = scriptType a.param.type
  /-- An optional one has the mark, or a type that takes `undefined`. -/
  optional : a.param.required = false →
    p.isMarked = true ∧ p.type = scriptType a.param.type ∨
    p.isMarked = false ∧ p.type = scriptType a.param.type ++ " | undefined"
  /-- The mark is for optional arguments that no required one follows. -/
  isMarked_iff : p.isMarked = true ↔
    a.param.required = false ∧ ∀ b ∈ after, b.param.required = false

theorem keeps_parameterOf (a : Argument) (after : List Argument) :
    Keeps a after (parameterOf a (after.any (·.param.required))) where
  name := rfl
  required h := by simp [parameterOf, h]
  optional h := by
    cases hfollows : after.any (·.param.required) with
    | false =>
      left
      simp [parameterOf, h]
    | true =>
      right
      simp [parameterOf, h]
  isMarked_iff := by simp [parameterOf]

/-- **Every argument becomes the parameter at its place.** -/
theorem keeps_getElem?_parameters (before : List Argument) (a : Argument) (after : List Argument) :
    ∃ p, (parameters (before ++ a :: after))[before.length]? = some p ∧ Keeps a after p := by
  induction before with
  | nil => exact ⟨_, rfl, keeps_parameterOf a after⟩
  | cons b before ih => exact ih

theorem isMarked_of_mem_parameters {args : List Argument}
    (h : ∀ a ∈ args, a.param.required = false) {p : Parameter} (hp : p ∈ parameters args) :
    p.isMarked = true := by
  induction args with
  | nil => cases hp
  | cons a rest ih =>
    rw [List.forall_mem_cons] at h
    rcases List.mem_cons.mp hp with rfl | hp
    · exact (keeps_parameterOf a rest).isMarked_iff.mpr h
    · exact ih h.2 hp

/-- **No parameter without the mark follows one with it.** -/
theorem markedLast_parameters (args : List Argument) : Parameter.MarkedLast (parameters args) := by
  induction args with
  | nil => exact .nil
  | cons a rest ih =>
    refine .cons (fun q hq hmarked => ?_) ih
    obtain ⟨-, hrest⟩ := (keeps_parameterOf a rest).isMarked_iff.mp hmarked
    exact isMarked_of_mem_parameters hrest hq

theorem depthThrough?_scriptType (type : String) (requiredFollows : Bool) :
    Parameter.depthThrough? 0
      (scriptType type ++ if requiredFollows then " | undefined" else "").toList = some 0 := by
  have hsuffix : Parameter.depthThrough? 0
      (if requiredFollows then " | undefined" else "").toList = some 0 := by
    cases requiredFollows <;> decide
  have htypes : ∀ t ∈ "any" :: "any[]" :: knownTypes.map Prod.snd,
      Parameter.depthThrough? 0 t.toList = some 0 := by decide
  rw [String.toList_append, Parameter.depthThrough?_append, htypes _ (matches_scriptType type),
    Option.bind_some, hsuffix]

theorem isItem_of_mem_parameters {args : List Argument}
    (h : ∀ a ∈ args, Form.name.Matches a.name) {p : Parameter} (hp : p ∈ parameters args) :
    p.IsItem := by
  induction args with
  | nil => cases hp
  | cons a rest ih =>
    rw [List.forall_mem_cons] at h
    rcases List.mem_cons.mp hp with rfl | hp
    · exact ⟨h.1, depthThrough?_scriptType _ _⟩
    · exact ih h.2 hp

/-- **A signature has its marks and commas where TypeScript wants them, and keeps what is required.**
It is the text of one parameter for each argument, in order.  A required argument is written with its
type, an optional one with the mark or with a type that takes `undefined`; it has the mark exactly
when no required one comes after it, so nothing without the mark follows the mark.  Where the
variables are those of the arguments' parameters, as in every generated function, the text is read as
just these parameters.  Names are only read as runs of characters that identifiers have: whether such
a run is an identifier is no matter of the list. -/
theorem signature_keeps_required (args : List Argument) :
    ∃ ps : List Parameter,
      signature args = String.intercalate ", " (ps.map Parameter.text) ∧
      ps.length = args.length ∧
      (∀ before a after, args = before ++ a :: after →
        ∃ p, ps[before.length]? = some p ∧ Keeps a after p) ∧
      Parameter.MarkedLast ps ∧
      ((∀ a ∈ args, a.name = variableOf a.param) →
        Parameter.readAll? (signature args) = some ps) := by
  refine ⟨parameters args, signature_eq args, length_parameters args, ?_,
    markedLast_parameters args, fun hnames => ?_⟩
  · rintro before a after rfl
    exact keeps_getElem?_parameters before a after
  · have hmatches : ∀ a ∈ args, Form.name.Matches a.name := by
      intro a ha
      rw [hnames a ha]
      exact matches_name_safe a.param.arg
    rw [signature_eq]
    exact Parameter.readAll?_intercalate fun p hp => isItem_of_mem_parameters hmatches hp

end Fetch
end Client
end RestBindings
