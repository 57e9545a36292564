import RestBindings.Proofs.Code.Form
import RestBindings.Proofs.Code.Writing
import RestBindings.Proofs.Naming.Identifiers
import RestBindings.Proofs.Text.Lines

/-! # The names that a source declares

A line declares a value at the top level of a module if it is not indented and starts with a word
such as `const`, after `export` and `async` where these are written; the name follows.
`topLevelNames` reads these names off the lines of a text.

What fragments write inside a block is indented, and the lines of a documentation comment start with
its marks, so neither is read; whether a comment ends where its text does is a question of its own.
If no line of a fragment holds a line feed of its own, the names of a text are those that its
fragments declare on the first level (`topLevelNames_render`).
-/
namespace RestBindings
namespace Code

/-! ## Reading names -/

/-- The words before the name of a value. -/
def declaringWords : List String := ["const ", "let ", "var ", "function ", "class "]

/-- A line without a word that it may start with. -/
def dropWord (word : String) (line : List Char) : List Char :=
  (line.dropPrefix? word.toList).getD line

/-- What follows the declaring word of a line. -/
def afterDeclaring? (line : List Char) : Option (List Char) :=
  declaringWords.findSome? fun word =>
    (dropWord "async " (dropWord "export " line)).dropPrefix? word.toList

/-- The name of the value that a line declares at the top level. -/
def declaredName? (line : List Char) : Option String :=
  (afterDeclaring? line).map fun rest => String.ofList (rest.takeWhile Naming.isIdentifierPart)

/-- The names that the lines of a text declare. -/
def namesIn (text : List Char) : List String :=
  (Text.splitOn (· == '\n') text).filterMap declaredName?

/-- **The names of the values that a source declares at its top level**, in order. -/
def topLevelNames (source : String) : List String := namesIn source.toList

/-- Every declaring word starts with a small letter. -/
theorem dropPrefix?_word_eq_none {word : String} {c : Char}
    (hword : word.toList.head?.any Char.isLower = true) (hc : c.isLower = false)
    (rest : List Char) : (c :: rest).dropPrefix? word.toList = none := by
  cases hchars : word.toList with
  | nil => simp [hchars] at hword
  | cons d chars =>
    rw [hchars, List.head?_cons, Option.any_some] at hword
    have hne : (c == d) = false := beq_eq_false_iff_ne.mpr fun h => by simp [h, hword] at hc
    simp [List.dropPrefix?, hne]

/-- A line that starts with anything but a small letter declares nothing. -/
theorem declaredName?_eq_none {c : Char} (hc : c.isLower = false) (rest : List Char) :
    declaredName? (c :: rest) = none := by
  have hwords : ∀ word ∈ declaringWords, word.toList.head?.any Char.isLower = true := by decide
  have hdrop {word : String} (hword : word.toList.head?.any Char.isLower = true) :
      dropWord word (c :: rest) = c :: rest := by
    rw [dropWord, dropPrefix?_word_eq_none hword hc]
    rfl
  rw [declaredName?, afterDeclaring?, hdrop (by decide), hdrop (by decide),
    List.findSome?_eq_none_iff.mpr fun word hword =>
      dropPrefix?_word_eq_none (hwords word hword) hc rest]
  rfl

/-- The name of a line ends before a character that a name cannot have. -/
theorem declaredName?_eq_some {line name rest : List Char} {c : Char}
    (hline : afterDeclaring? line = some (name ++ c :: rest))
    (hname : ∀ d ∈ name, Naming.isIdentifierPart d = true)
    (hc : Naming.isIdentifierPart c = false) : declaredName? line = some (String.ofList name) := by
  rw [declaredName?, hline, Option.map_some, List.takeWhile_append_of_pos hname,
    List.takeWhile_cons_of_neg (by simp [hc]), List.append_nil]

/-! ## Names of fragments -/

/-- A text of whole lines declares exactly the names. -/
def Declares (text : List Char) (names : List String) : Prop :=
  ∀ rest, namesIn (text ++ rest) = names ++ namesIn rest

theorem declares_nil : Declares [] [] := fun _ => rfl

theorem Declares.append {text text' : List Char} {names names' : List String}
    (h : Declares text names) (h' : Declares text' names') :
    Declares (text ++ text') (names ++ names') := by
  intro rest
  rw [List.append_assoc, h, h', List.append_assoc]

theorem declares_line {line : List Char} (h : '\n' ∉ line) :
    Declares (line ++ ['\n']) (declaredName? line).toList := by
  intro rest
  rw [namesIn, List.append_assoc, List.singleton_append,
    Text.splitOn_append_cons (Text.beq_eq_false_of_not_mem h) (by decide), List.filterMap_cons,
    namesIn]
  cases declaredName? line <;> rfl

/-- The name that a line at a level declares: only on the first level is it not indented. -/
def declaredAt (level : Nat) (line : String) : Option String :=
  if level = 0 then declaredName? line.toList else none

theorem filterMap_declaredAt_succ (level : Nat) (lines : List String) :
    lines.filterMap (declaredAt (level + 1)) = [] := by
  simp [declaredAt]

theorem declares_line_at (level : Nat) {line : String} (h : '\n' ∉ line.toList) :
    Declares (Indent.script.line level line).toList (declaredAt level line).toList := by
  cases level with
  | zero =>
    have hchars : (Indent.script.line 0 line).toList = line.toList ++ ['\n'] := by
      simp [Indent.line, Indent.script, Indent.text]
    rw [hchars]
    exact declares_line h
  | succ level =>
    have hchars : (Indent.script.line (level + 1) line).toList =
        (' ' :: (List.replicate (2 * level + 1) ' ' ++ line.toList)) ++ ['\n'] := by
      have hwidth : (level + 1) * 2 = 2 * level + 1 + 1 := by omega
      simp [Indent.line, Indent.script, Indent.text, hwidth, List.replicate_succ]
    have hfeed : '\n' ∉ ' ' :: (List.replicate (2 * level + 1) ' ' ++ line.toList) := by
      simp [h]
    have hnone : declaredAt (level + 1) line = none := rfl
    rw [hchars, hnone, ← declaredName?_eq_none (c := ' ') (by decide)]
    exact declares_line hfeed

theorem declares_lines (level : Nat) {lines : List String} (h : ∀ l ∈ lines, '\n' ∉ l.toList) :
    Declares (String.join (lines.map (Indent.script.line level))).toList
      (lines.filterMap (declaredAt level)) := by
  induction lines with
  | nil => exact declares_nil
  | cons l rest ih =>
    rw [List.forall_mem_cons] at h
    have hall := (declares_line_at level h.1).append (ih h.2)
    rw [List.map_cons, String.join_cons, String.toList_append, List.filterMap_cons]
    cases hl : declaredAt level l <;> simpa [hl] using hall

theorem declares_blank : Declares "\n".toList [] := fun _ => rfl

/-! ### Documentation comments -/

/-- The lines of a documentation comment hold no line feed. -/
theorem not_mem_docLines (text : String) : ∀ l ∈ docLines text, '\n' ∉ l.toList := by
  rw [docLines]
  split
  next hlines =>
    rw [Text.lines, List.length_map] at hlines
    rw [List.forall_mem_singleton]
    simpa using Text.not_mem_trim_of_length_linesFrom_le hlines
  next =>
    have hline : ∀ l ∈ Text.lines text, '\n' ∉ (Writer.docLine l).toList := by
      intro l hl
      obtain ⟨cs, hcs, rfl⟩ := List.mem_map.mp hl
      have hfeed : '\n' ∉ Text.trimEnd cs := fun h =>
        Text.not_mem_of_mem_linesFrom hcs List.not_mem_nil (Text.mem_of_mem_trimEnd h)
      rw [Writer.docLine, String.toList_ofList]
      split
      · decide
      · simpa using hfeed
    simp only [List.cons_append, List.forall_mem_cons, List.forall_mem_append, List.forall_mem_map]
    exact ⟨by decide, hline, by decide, List.forall_mem_nil _⟩

/-- Every line of a documentation comment starts with a mark. -/
theorem declaredAt_docLines (level : Nat) (text : String) :
    (docLines text).filterMap (declaredAt level) = [] := by
  have hmark {c : Char} (hc : c.isLower = false) {s : String} (hs : s.toList.head? = some c) :
      declaredAt level s = none := by
    obtain ⟨rest, hchars⟩ := List.head?_eq_some_iff.mp hs
    rw [declaredAt, hchars, declaredName?_eq_none hc]
    split <;> rfl
  have hline (l : String) : declaredAt level (Writer.docLine l) = none := by
    refine hmark (c := ' ') (by decide) ?_
    rw [Writer.docLine]
    split <;> simp
  have hopen : declaredAt level "/**" = none := hmark (c := '/') (by decide) rfl
  have hclose : declaredAt level " */" = none := hmark (c := ' ') (by decide) rfl
  rw [docLines]
  split
  · simp [hmark (c := '/') (by decide)]
  · rw [List.cons_append, List.filterMap_cons_none hopen, List.filterMap_append,
      List.filterMap_cons_none hclose, List.filterMap_map]
    simp [hline]

/-- A documentation comment declares nothing. -/
theorem declares_doc (level : Nat) (text : String) :
    Declares ((Fragment.doc text).written .script level).toList [] := by
  rw [Fragment.written, ← declaredAt_docLines level text]
  exact declares_lines level (not_mem_docLines text)

/-! ### Blocks -/

mutual

/-- The fragment holds raw text, which ends no line. -/
def Fragment.hasRaw : Fragment → Bool
  | .raw _ => true
  | .block _ body _ => hasRawAll body
  | .indented body => hasRawAll body
  | .sequence body => hasRawAll body
  | _ => false

/-- Some of the fragments hold raw text. -/
def Fragment.hasRawAll : List Fragment → Bool
  | [] => false
  | f :: rest => f.hasRaw || hasRawAll rest

end

mutual

/-- The names that a fragment declares on the first level. -/
def Fragment.declared : Fragment → List String
  | .line s => (declaredName? s.toList).toList
  | .block header _ close =>
    (declaredName? header.toList).toList ++ close.toList.filterMap fun s => declaredName? s.toList
  | .sequence body => declaredAll body
  | _ => []

/-- The names that fragments declare on the first level. -/
def Fragment.declaredAll : List Fragment → List String
  | [] => []
  | f :: rest => f.declared ++ declaredAll rest

end

section Written

open Fragment

mutual

/-- **Nothing is declared in a block.** -/
theorem declares_deeper (level : Nat) : (f : Fragment) → (∀ t ∈ f.texts, '\n' ∉ t.toList) →
    f.hasRaw = false → Declares (f.written .script (level + 1)).toList []
  | .line s, h, _ => declares_line_at (level + 1) (h s (by simp [texts]))
  | .blank, _, _ => declares_blank
  | .raw _, _, hraw => by cases hraw
  | .block header body close, h, hraw => by
    simp only [texts, List.mem_append, List.mem_cons, or_imp, forall_and, forall_eq] at h
    have hheader := declares_line_at (level + 1) h.1.1
    have hbody := declares_deeperAll (level + 1) body h.1.2 hraw
    have hclose := declares_lines (level + 1) h.2
    rw [filterMap_declaredAt_succ] at hclose
    rw [written, String.toList_append, String.toList_append]
    exact (hheader.append hbody).append hclose
  | .indented body, h, hraw => declares_deeperAll (level + 1) body h hraw
  | .sequence body, h, hraw => declares_deeperAll level body h hraw
  | .doc text, _, _ => declares_doc (level + 1) text

theorem declares_deeperAll (level : Nat) : (fs : List Fragment) →
    (∀ t ∈ textsAll fs, '\n' ∉ t.toList) → hasRawAll fs = false →
    Declares (writtenAll .script (level + 1) fs).toList []
  | [], _, _ => declares_nil
  | f :: rest, h, hraw => by
    rw [hasRawAll, Bool.or_eq_false_iff] at hraw
    simp only [textsAll, List.mem_append, or_imp, forall_and] at h
    rw [writtenAll, String.toList_append]
    exact (declares_deeper level f h.1 hraw.1).append (declares_deeperAll level rest h.2 hraw.2)

end

mutual

/-- **A fragment on the first level declares the names of its lines there.** -/
theorem declares_written : (f : Fragment) → (∀ t ∈ f.texts, '\n' ∉ t.toList) →
    f.hasRaw = false → Declares (f.written .script 0).toList f.declared
  | .line s, h, _ => declares_line_at 0 (h s (by simp [texts]))
  | .blank, _, _ => declares_blank
  | .raw _, _, hraw => by cases hraw
  | .block header body close, h, hraw => by
    simp only [texts, List.mem_append, List.mem_cons, or_imp, forall_and, forall_eq] at h
    have hheader := declares_line_at 0 h.1.1
    have hinside := hheader.append (declares_deeperAll 0 body h.1.2 hraw)
    rw [List.append_nil] at hinside
    rw [written, String.toList_append, String.toList_append]
    exact hinside.append (declares_lines 0 h.2)
  | .indented body, h, hraw => declares_deeperAll 0 body h hraw
  | .sequence body, h, hraw => declares_writtenAll body h hraw
  | .doc text, _, _ => declares_doc 0 text

theorem declares_writtenAll : (fs : List Fragment) → (∀ t ∈ textsAll fs, '\n' ∉ t.toList) →
    hasRawAll fs = false → Declares (writtenAll .script 0 fs).toList (declaredAll fs)
  | [], _, _ => declares_nil
  | f :: rest, h, hraw => by
    rw [hasRawAll, Bool.or_eq_false_iff] at hraw
    simp only [textsAll, List.mem_append, or_imp, forall_and] at h
    rw [writtenAll, String.toList_append]
    exact (declares_written f h.1 hraw.1).append (declares_writtenAll rest h.2 hraw.2)

end

end Written

/-- **The names of a source** are those that its fragments declare on the first level. -/
theorem topLevelNames_render {fragments : List Fragment}
    (h : ∀ t ∈ Fragment.textsAll fragments, '\n' ∉ t.toList)
    (hraw : Fragment.hasRawAll fragments = false) :
    topLevelNames (Fragment.render .script fragments) = Fragment.declaredAll fragments := by
  have hdeclares := declares_writtenAll fragments h hraw []
  rw [List.append_nil] at hdeclares
  rw [topLevelNames, Fragment.render_eq_writtenAll, hdeclares]
  exact List.append_nil _

/-! ## Names of declarations -/

section Declarations

open Fragment

theorem declaredAll_append (first rest : List Fragment) :
    declaredAll (first ++ rest) = declaredAll first ++ declaredAll rest := by
  induction first with
  | nil => rfl
  | cons f first ih => rw [List.cons_append, declaredAll, ih, declaredAll, List.append_assoc]

theorem hasRawAll_append (first rest : List Fragment) :
    hasRawAll (first ++ rest) = (hasRawAll first || hasRawAll rest) := by
  induction first with
  | nil => rfl
  | cons f first ih => rw [List.cons_append, hasRawAll, ih, hasRawAll, Bool.or_assoc]

@[simp] theorem declaredAll_docFragments (doc : Option String) :
    declaredAll (docFragments doc) = [] := by
  cases doc <;> rfl

@[simp] theorem hasRawAll_docFragments (doc : Option String) :
    hasRawAll (docFragments doc) = false := by
  cases doc <;> rfl

/-- Lines, some of which may be left blank. -/
theorem hasRawAll_map_line (lines : List String) (p : String → Bool) :
    hasRawAll (lines.map fun l => if p l then .blank else .line l) = false := by
  induction lines with
  | nil => rfl
  | cons l lines ih =>
    rw [List.map_cons, hasRawAll, ih, Bool.or_false]
    split <;> rfl

mutual

theorem hasRaw_propertyFragment (key : String) :
    (e : Expr) → (Object.propertyFragment key e).hasRaw = false
  | .text s => rfl
  | .code s => rfl
  | .object properties => hasRawAll_propertyFragments properties
  | .lambda f => by
    have hbody := hasRawAll_map_line f.body fun _ => false
    simpa [Object.propertyFragment, hasRaw] using hbody

theorem hasRawAll_propertyFragments :
    (object : List (String × Expr)) → hasRawAll (Object.propertyFragments object) = false
  | [] => rfl
  | (key, value) :: rest => by
    rw [Object.propertyFragments, hasRawAll, hasRaw_propertyFragment key value,
      hasRawAll_propertyFragments rest]
    rfl

end

theorem declaredAll_line (s : String) :
    declaredAll [.line s] = (declaredName? s.toList).toList :=
  List.append_nil _

/-- A block declares what its header does, when a bracket closes it. -/
theorem declaredAll_block {header close : String} {body : List Fragment}
    (h : close.toList.head? = some '\x7d') :
    declaredAll [.block header body (some close)] = (declaredName? header.toList).toList := by
  obtain ⟨rest, hchars⟩ := List.head?_eq_some_iff.mp h
  have hclose : declaredName? close.toList = none := by
    rw [hchars, declaredName?_eq_none (by decide)]
  simp [declaredAll, declared, hclose]

theorem afterDeclaring?_const (isExported : Bool) (rest : List Char) :
    afterDeclaring? ((exportWord isExported).toList ++ ("const ".toList ++ rest)) = some rest := by
  cases isExported <;>
    simp [afterDeclaring?, dropWord, exportWord, declaringWords, List.dropPrefix?]

theorem afterDeclaring?_function (isExported isAsync : Bool) (rest : List Char) :
    afterDeclaring? ((exportWord isExported).toList ++ ((if isAsync then "async " else "").toList
      ++ ("function ".toList ++ rest))) = some rest := by
  cases isExported <;> cases isAsync <;>
    simp [afterDeclaring?, dropWord, exportWord, declaringWords, List.dropPrefix?]

theorem hasRawAll_const (c : Const) : hasRawAll c.fragments = false := by
  rw [Const.fragments, hasRawAll_append, hasRawAll_docFragments, Bool.false_or]
  split
  · rfl
  · rfl
  · rw [hasRawAll, hasRaw, hasRawAll_propertyFragments]
    rfl

/-- The name of a constant ends before its type or the blank before its value. -/
theorem declaredName?_const {c : Const} (h : ∀ d ∈ c.name.toList, Naming.isIdentifierPart d = true)
    {code : String} (hcode : code.toList.head? = some ' ') :
    declaredName? (c.head ++ code).toList = some c.name := by
  have hafter : ∃ d rest, Naming.isIdentifierPart d = false ∧
      (c.head ++ code).toList = (exportWord c.isExported).toList
        ++ ("const ".toList ++ (c.name.toList ++ d :: rest)) := by
    obtain ⟨rest, hchars⟩ := List.head?_eq_some_iff.mp hcode
    cases htype : c.type with
    | none => exact ⟨' ', rest, by decide, by simp [Const.head, htype, hchars]⟩
    | some type =>
      exact ⟨':', ' ' :: (type.toList ++ ' ' :: rest), by decide,
        by simp [Const.head, htype, hchars]⟩
  obtain ⟨d, rest, hd, hchars⟩ := hafter
  rw [hchars, declaredName?_eq_some (afterDeclaring?_const _ _) h hd, String.ofList_toList]

/-- A constant declares its name. -/
theorem declaredAll_const {c : Const} (h : ∀ d ∈ c.name.toList, Naming.isIdentifierPart d = true) :
    declaredAll c.fragments = [c.name] := by
  rw [Const.fragments, declaredAll_append, declaredAll_docFragments, List.nil_append]
  split
  next code _ =>
    have hcode : (" = " ++ (code ++ ";")).toList.head? = some ' ' := by simp
    have hline := declaredName?_const h hcode
    simp only [← String.append_assoc] at hline
    rw [declaredAll_line, hline, Option.toList_some]
  next =>
    have hcode : " = \x7b\x7d;".toList.head? = some ' ' := rfl
    rw [declaredAll_line, declaredName?_const h hcode, Option.toList_some]
  next properties _ _ =>
    have hcode : " = \x7b".toList.head? = some ' ' := rfl
    rw [declaredAll_block rfl, declaredName?_const h hcode, Option.toList_some]

theorem hasRawAll_function (f : Function) : hasRawAll f.fragments = false := by
  rw [Function.fragments, hasRawAll_append, hasRawAll_docFragments, Bool.false_or, hasRawAll,
    hasRaw, hasRawAll_map_line]
  rfl

/-- A function declares its name. -/
theorem declaredAll_function {f : Function}
    (h : ∀ d ∈ f.name.toList, Naming.isIdentifierPart d = true) :
    declaredAll f.fragments = [f.name] := by
  have hchars : ∃ rest, f.head.toList = (exportWord f.isExported).toList
      ++ ((if f.isAsync then "async " else "").toList
        ++ ("function ".toList ++ (f.name.toList ++ '(' :: rest))) := by
    rw [Function.head]
    simp only [String.toList_append, List.append_assoc]
    exact ⟨_, rfl⟩
  obtain ⟨rest, hchars⟩ := hchars
  have hhead : declaredName? f.head.toList = some f.name := by
    rw [hchars, declaredName?_eq_some (afterDeclaring?_function _ _ _) h (by decide),
      String.ofList_toList]
  rw [Function.fragments, declaredAll_append, declaredAll_docFragments, List.nil_append,
    declaredAll_block rfl, hhead, Option.toList_some]

theorem declaredAll_joined (items : List (List Fragment)) :
    declaredAll (File.joined items) = items.flatMap declaredAll := by
  induction items with
  | nil => rfl
  | cons item rest ih =>
    cases rest with
    | nil => simp [File.joined]
    | cons next rest =>
      rw [File.joined, declaredAll_append, declaredAll, ih]
      rfl

theorem hasRawAll_joined {items : List (List Fragment)}
    (h : ∀ item ∈ items, hasRawAll item = false) : hasRawAll (File.joined items) = false := by
  induction items with
  | nil => rfl
  | cons item rest ih =>
    rw [List.forall_mem_cons] at h
    cases rest with
    | nil => exact h.1
    | cons next rest =>
      rw [File.joined, hasRawAll_append, hasRawAll, h.1, ih h.2]
      rfl

end Declarations
end Code
end RestBindings
