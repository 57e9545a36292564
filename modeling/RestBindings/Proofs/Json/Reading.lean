import RestBindings.Json.Reader.Record
import RestBindings.Proofs.Json.Layout
import RestBindings.Proofs.Text.Quoted

/-! # Written values are read back

A reader **reads** a text when it takes exactly that text, whatever comes after it (`Reads`), so
readers that are put together read the texts put together.  In any layout, a value without numbers
is read back as it was (`reads_value`), and so is a record whose members are stored one after
another (`Record.reads_read`).  The fuel that the readers of lists and objects run on is the length
of the text, and every element or member has at least one character, so it never runs out.
-/
namespace RestBindings
namespace Json
namespace Reader

variable {α β σ : Type}

/-- The reader takes exactly the text, whatever comes after it, and gives the result. -/
def Reads (reader : Reader α) (text : List Char) (a : α) : Prop :=
  ∀ left, reader (text ++ left) = .ok (a, left)

/-- Once the first of two readers has read something, the second goes on with what is left. -/
theorem bind_of_ok {x : Reader α} {next : α → Reader β} {cs left : List Char} {a : α}
    (h : x cs = .ok (a, left)) : (x >>= next) cs = next a left := by
  simp only [bind, StateT.bind, h, Except.bind]

theorem Reads.bind {reader : Reader α} {next : α → Reader β} {text more : List Char} {a : α} {b : β}
    (h : Reads reader text a) (hnext : Reads (next a) more b) :
    Reads (reader >>= next) (text ++ more) b := by
  intro left
  rw [List.append_assoc, bind_of_ok (h _), hnext]

/-- What is read may be reworked. -/
theorem Reads.bind_pure {reader : Reader α} {text : List Char} {a : α} (h : Reads reader text a)
    (f : α → β) : Reads (reader >>= fun a => pure (f a)) text (f a) := by
  intro left
  rw [bind_of_ok (h left)]
  rfl

theorem Reads.map {reader : Reader α} {text : List Char} {a : α} (h : Reads reader text a)
    (f : α → β) : Reads (f <$> reader) text (f a) := by
  have hpure := h.bind_pure f
  rwa [bind_pure_comp] at hpure

/-! ## Blanks and single characters -/

theorem dropWhile_isSpace_append {blanks : List Char} (hblanks : Spaces blanks) {c : Char}
    (hc : isSpace c = false) (left : List Char) :
    (blanks ++ c :: left).dropWhile isSpace = c :: left := by
  rw [List.dropWhile_append_of_pos hblanks, List.dropWhile_cons_of_neg (by simp [hc])]

section Spaces

variable {blanks : List Char} (hblanks : Spaces blanks) {c : Char} (hc : isSpace c = false)
include hblanks hc

/-- Blanks are skipped up to the next character, which is shown. -/
theorem peek_append (left : List Char) : peek (blanks ++ c :: left) = .ok (some c, c :: left) := by
  rw [peek, dropWhile_isSpace_append hblanks hc]
  rfl

theorem start_append (left : List Char) : start (blanks ++ c :: left) = .ok (c, c :: left) := by
  rw [start, bind_of_ok (peek_append hblanks hc left)]
  rfl

omit hblanks in
theorem peek_cons (left : List Char) : peek (c :: left) = .ok (some c, c :: left) :=
  peek_append spaces_nil hc left

/-- What is read depends on the next character after blanks. -/
theorem Reads.of_peek {next : Option Char → Reader α} {text : List Char} {a : α}
    (h : Reads (next (some c)) (c :: text) a) : Reads (peek >>= next) (blanks ++ c :: text) a := by
  intro left
  rw [List.append_assoc, List.cons_append, bind_of_ok (peek_append hblanks hc _)]
  exact h left

theorem Reads.of_start {next : Char → Reader α} {text : List Char} {a : α}
    (h : Reads (next c) (c :: text) a) : Reads (start >>= next) (blanks ++ c :: text) a := by
  intro left
  rw [List.append_assoc, List.cons_append, bind_of_ok (start_append hblanks hc _)]
  exact h left

end Spaces

theorem take_cons (c : Char) (left : List Char) : take (c :: left) = .ok ((), left) := rfl

theorem reads_take (c : Char) : Reads take [c] () := take_cons c

theorem Reads.of_take {reader : Reader α} {text : List Char} {a : α} (h : Reads reader text a)
    (c : Char) : Reads (take >>= fun _ => reader) (c :: text) a :=
  (reads_take c).bind h

theorem reads_word (w : List Char) : Reads (word w) w () := by
  intro left
  induction w with
  | nil => rfl
  | cons c w ih =>
    rw [List.cons_append, word]
    simp only [if_true]
    exact ih

/-- A fixed word stands for a result. -/
theorem reads_word_as (w : List Char) (a : α) : Reads (word w >>= fun _ => pure a) w a :=
  (reads_word w).bind_pure fun _ => a

/-! ## Scalars -/

/-- The characters of a quoted text after its opening quote are read as the text. -/
theorem reads_quoted (s : String) : Reads quoted (s.toList.flatMap Text.escape ++ ['"']) s := by
  intro left
  rw [List.append_assoc, List.singleton_append, quoted, Text.textChars_flatMap_escape]
  simp only [pure, Except.pure, bind, Except.bind, String.ofList_toList]

section Scalars

variable {blanks : List Char} (hblanks : Spaces blanks)
include hblanks

theorem reads_textAs (expected s : String) :
    Reads (textAs expected) (blanks ++ Text.quoteChars s.toList) s :=
  .of_start hblanks (by decide) ((reads_quoted s).of_take '"')

theorem reads_text (s : String) : Reads text (blanks ++ Text.quoteChars s.toList) s :=
  reads_textAs hblanks _ s

theorem reads_true : Reads bool (blanks ++ ['t', 'r', 'u', 'e']) true :=
  .of_start hblanks (by decide) ((reads_word_as _ true).of_take 't')

theorem reads_false : Reads bool (blanks ++ ['f', 'a', 'l', 's', 'e']) false :=
  .of_start hblanks (by decide) ((reads_word_as _ false).of_take 'f')

theorem reads_colon : Reads colon (blanks ++ [':']) () :=
  .of_peek hblanks (by decide) (reads_take ':')

/-- A word is read as its meaning. -/
theorem reads_wordOf {known : List (String × α)} {w : String} {a : α}
    (h : known.lookup w = some a) : Reads (wordOf known) (blanks ++ Text.quoteChars w.toList) a := by
  refine .of_start hblanks (by decide) ?_
  intro left
  have hword : Reads (textAs "variant identifier") (Text.quoteChars w.toList) w :=
    reads_textAs spaces_nil _ w
  refine (bind_of_ok (hword left)).trans ?_
  simp only [h]
  rfl

/-- A text or an object is no `null`. -/
theorem reads_optional {reader : Reader α} {c : Char} {text : List Char} {a : α}
    (hc : c = '"' ∨ c = '\x7b') (h : Reads reader (c :: text) a) :
    Reads (optional reader) (blanks ++ c :: text) (some a) := by
  rcases hc with rfl | rfl
  · exact .of_peek hblanks (by decide) (h.map some)
  · exact .of_peek hblanks (by decide) (h.map some)

end Scalars

/-! ## Lists -/

section Elements

variable {blanks : List Char} (hblanks : Spaces blanks)
include hblanks

theorem moreElements_end (isFirst : Bool) (left : List Char) :
    moreElements isFirst (blanks ++ ']' :: left) = .ok (false, ']' :: left) := by
  rw [moreElements, bind_of_ok (peek_append hblanks (by decide) left)]
  rfl

variable {c : Char} (hspace : isSpace c = false) (hclose : c ≠ ']')
include hspace hclose

theorem moreElements_first (left : List Char) :
    moreElements true (blanks ++ c :: left) = .ok (true, c :: left) := by
  rw [moreElements, bind_of_ok (peek_append hblanks hspace left)]
  simp only [if_true]
  rfl

theorem moreElements_next (left : List Char) :
    moreElements false (',' :: (blanks ++ c :: left)) = .ok (true, c :: left) := by
  rw [moreElements, bind_of_ok (peek_cons (by decide) _)]
  refine (bind_of_ok (take_cons ',' _)).trans ?_
  rw [bind_of_ok (peek_append hblanks hspace left)]
  simp only
  rfl

end Elements

/-- The character that a value starts with is no blank and closes no bracket. -/
def Starts (text : List Char) : Prop :=
  ∃ c rest, text = c :: rest ∧ isSpace c = false ∧ c ≠ ']'

section Lists

variable (layout : Layout) (depth : Nat) {element : Reader Value} {values : List Value}
  (hreads : ∀ v ∈ values, Reads element (layout.chars depth v) v)
  (hstarts : ∀ v ∈ values, Starts (layout.chars depth v))
  {blanks : List Char} (hblanks : Spaces blanks)
include hreads hstarts hblanks

/-- Elements after the first are read one by one up to the closing bracket. -/
theorem elementsFrom_append {fuel : Nat} (hfuel : values.length < fuel) (left : List Char) :
    elementsFrom element fuel false (layout.elements depth values ++ (blanks ++ ']' :: left)) =
      .ok (values, ']' :: left) := by
  induction values generalizing fuel with
  | nil =>
    cases fuel with
    | zero => exact absurd hfuel (Nat.not_lt_zero _)
    | succ fuel =>
      rw [Layout.elements, List.nil_append, elementsFrom, bind_of_ok (moreElements_end hblanks _ _)]
      rfl
  | cons v rest ih =>
    cases fuel with
    | zero => exact absurd hfuel (Nat.not_lt_zero _)
    | succ fuel =>
      rw [List.forall_mem_cons] at hreads hstarts
      obtain ⟨c, more, hchars, hspace, hclose⟩ := hstarts.1
      have hread := hreads.1 (layout.elements depth rest ++ (blanks ++ ']' :: left))
      have hrest := ih hreads.2 hstarts.2 (Nat.lt_of_succ_lt_succ hfuel)
      rw [hchars, List.cons_append] at hread
      rw [Layout.elements, hchars, elementsFrom]
      simp only [List.cons_append, List.append_assoc]
      rw [bind_of_ok (moreElements_next (layout.spaces_gap depth) hspace hclose _)]
      simp only [if_true]
      rw [bind_of_ok hread, bind_of_ok hrest]
      rfl

end Lists

/-- **A written list is read back** by a reader of its elements. -/
theorem reads_elements (layout : Layout) (depth : Nat) {element : Reader Value}
    {values : List Value}
    (hreads : ∀ v ∈ values, Reads element (layout.chars (depth + 1) v) v)
    (hstarts : ∀ v ∈ values, Starts (layout.chars (depth + 1) v)) :
    Reads (elements element) (layout.insideList depth values ++ [']']) values := by
  intro left
  rw [List.append_assoc, List.singleton_append]
  have hall : elementsFrom element ((layout.insideList depth values ++ ']' :: left).length + 1) true
      (layout.insideList depth values ++ ']' :: left) = .ok (values, ']' :: left) := by
    cases values with
    | nil =>
      have hend : moreElements true (']' :: left) = .ok (false, ']' :: left) :=
        moreElements_end spaces_nil true left
      rw [Layout.insideList, List.nil_append, elementsFrom, bind_of_ok hend]
      rfl
    | cons v rest =>
      rw [List.forall_mem_cons] at hreads hstarts
      obtain ⟨c, more, hchars, hspace, hclose⟩ := hstarts.1
      have hread := hreads.1 (layout.elements (depth + 1) rest
        ++ (layout.gap depth ++ ']' :: left))
      rw [hchars, List.cons_append] at hread
      have hlength := layout.length_le_length_elements (depth + 1) rest
      have hrest {fuel : Nat} (hfuel : rest.length < fuel) :=
        elementsFrom_append layout (depth + 1) hreads.2 hstarts.2 (layout.spaces_gap depth) hfuel left
      rw [elementsFrom, Layout.insideList, hchars]
      simp only [List.append_assoc, List.cons_append]
      rw [bind_of_ok (moreElements_first (layout.spaces_gap _) hspace hclose _)]
      simp only [if_true]
      rw [bind_of_ok hread, bind_of_ok (hrest (by simp; omega))]
      rfl
  rw [elements, bind_of_ok (x := fun left => elementsFrom element (left.length + 1) true left) hall,
    bind_of_ok (peek_cons (by decide) left)]
  rfl

/-! ## Objects -/

section Members

variable {blanks : List Char} (hblanks : Spaces blanks)
include hblanks

theorem moreMembers_end (isFirst : Bool) (left : List Char) :
    moreMembers isFirst (blanks ++ '\x7d' :: left) = .ok (false, '\x7d' :: left) := by
  rw [moreMembers, bind_of_ok (peek_append hblanks (by decide) left)]
  rfl

theorem moreMembers_first (left : List Char) :
    moreMembers true (blanks ++ '"' :: left) = .ok (true, '"' :: left) := by
  rw [moreMembers, bind_of_ok (peek_append hblanks (by decide) left)]
  rfl

theorem moreMembers_next (left : List Char) :
    moreMembers false (',' :: (blanks ++ '"' :: left)) = .ok (true, '"' :: left) := by
  rw [moreMembers, bind_of_ok (peek_cons (by decide) _)]
  have hname : peek (blanks ++ '"' :: left) = .ok (some '"', '"' :: left) :=
    peek_append hblanks (by decide) left
  refine (bind_of_ok (take_cons ',' _)).trans ?_
  rw [pure_bind]
  exact (bind_of_ok hname).trans rfl

end Members

theorem reads_memberName (name : String) : Reads memberName (Text.quoteChars name.toList) name :=
  (reads_quoted name).of_take '"'

/-- Members that are read one after another, each from its colon on, take a state to another. -/
inductive Folds (layout : Layout) (depth : Nat) (member : σ → String → Reader σ) :
    σ → List (String × Value) → σ → Prop
  | nil (state : σ) : Folds layout depth member state [] state
  | cons {state next last : σ} {name : String} {v : Value} {rest : List (String × Value)}
      (first : Reads (member state name) (layout.afterName depth v) next)
      (others : Folds layout depth member next rest last) :
      Folds layout depth member state ((name, v) :: rest) last

section Folds

variable {layout : Layout} {depth : Nat} {member : σ → String → Reader σ} {state last : σ}
  {list : List (String × Value)}

theorem Folds.append {middle : σ} {more : List (String × Value)}
    (h : Folds layout depth member state list middle)
    (hmore : Folds layout depth member middle more last) :
    Folds layout depth member state (list ++ more) last := by
  induction h with
  | nil state => exact hmore
  | cons first _ ih => exact .cons first (ih hmore)

/-- A member is read with its name, and then from its colon on. -/
theorem membersFrom_member {fuel : Nat} {isFirst : Bool} {cs : List Char} {name : String}
    {v : Value} {next : σ} {left : List Char}
    (hmore : moreMembers isFirst cs =
      .ok (true, Text.quoteChars name.toList ++ (layout.afterName depth v ++ left)))
    (hread : Reads (member state name) (layout.afterName depth v) next) :
    membersFrom member (fuel + 1) isFirst state cs = membersFrom member fuel false next left := by
  rw [membersFrom, bind_of_ok hmore]
  simp only [if_true]
  rw [bind_of_ok (reads_memberName name _), bind_of_ok (hread left)]

/-- Members after the first are read one by one up to the closing bracket. -/
theorem Folds.membersFrom_append (h : Folds layout depth member state list last)
    {blanks : List Char} (hblanks : Spaces blanks) {fuel : Nat} (hfuel : list.length < fuel)
    (left : List Char) :
    membersFrom member fuel false state (layout.members depth list ++ (blanks ++ '\x7d' :: left)) =
      .ok (last, '\x7d' :: left) := by
  induction h generalizing fuel with
  | nil state =>
    cases fuel with
    | zero => exact absurd hfuel (Nat.not_lt_zero _)
    | succ fuel =>
      rw [Layout.members, List.nil_append, membersFrom, bind_of_ok (moreMembers_end hblanks _ _)]
      rfl
  | cons first others ih =>
    cases fuel with
    | zero => exact absurd hfuel (Nat.not_lt_zero _)
    | succ fuel =>
      rw [← ih (Nat.lt_of_succ_lt_succ hfuel)]
      refine membersFrom_member ?_ first
      simp only [Layout.members, Layout.afterName, List.append_assoc, List.cons_append]
      exact moreMembers_next (layout.spaces_gap depth) _

/-- **The members of a written object are read back** up to its closing bracket. -/
theorem Folds.members_append (h : Folds layout (depth + 1) member state list last)
    (left : List Char) :
    members member state (layout.insideObject depth list ++ '\x7d' :: left) =
      .ok (last, '\x7d' :: left) := by
  rw [members]
  cases h with
  | nil =>
    have hend : moreMembers true ('\x7d' :: left) = .ok (false, '\x7d' :: left) :=
      moreMembers_end spaces_nil true left
    rw [Layout.insideObject, List.nil_append, membersFrom, bind_of_ok hend]
    rfl
  | @cons _ next _ name v rest first others =>
    have hlength := layout.length_le_length_members (depth + 1) rest
    have hfuel : rest.length <
        (layout.insideObject depth ((name, v) :: rest) ++ '\x7d' :: left).length := by
      simp only [Layout.insideObject, List.length_append, List.length_cons]
      omega
    rw [← others.membersFrom_append (layout.spaces_gap depth) hfuel left]
    refine membersFrom_member ?_ first
    simp only [Layout.insideObject, List.append_assoc]
    exact moreMembers_first (layout.spaces_gap _) _

end Folds

/-! ## Values -/

end Reader

open Reader (Reads Starts Folds)

namespace Value

/-- There are no numbers in the value, and at most `depth` brackets are open in it at once. -/
def Plain : (depth : Nat) → Value → Prop
  | _, .null => True
  | _, .bool _ => True
  | _, .number _ => False
  | _, .text _ => True
  | 0, .list _ => False
  | 0, .object _ => False
  | depth + 1, .list values => ∀ v ∈ values, v.Plain depth
  | depth + 1, .object members => ∀ member ∈ members, member.2.Plain depth

section Plain

variable {depth : Nat}

@[simp] theorem plain_null : Value.null.Plain depth := by cases depth <;> trivial

@[simp] theorem plain_bool (b : Bool) : (Value.bool b).Plain depth := by cases depth <;> trivial

@[simp] theorem plain_text (s : String) : (Value.text s).Plain depth := by cases depth <;> trivial

@[simp] theorem plain_list {values : List Value} :
    (Value.list values).Plain (depth + 1) ↔ ∀ v ∈ values, v.Plain depth := Iff.rfl

@[simp] theorem plain_object {members : List (String × Value)} :
    (Value.object members).Plain (depth + 1) ↔ ∀ member ∈ members, member.2.Plain depth := Iff.rfl

end Plain

theorem Plain.starts {depth : Nat} {v : Value} (h : v.Plain depth) (layout : Layout) (level : Nat) :
    Starts (layout.chars level v) := by
  cases v with
  | null => exact ⟨_, _, rfl, by decide, by decide⟩
  | bool b => cases b <;> exact ⟨_, _, by rw [Layout.chars], by decide, by decide⟩
  | number n => cases depth <;> exact h.elim
  | text s => exact ⟨_, _, by rw [Layout.chars, Text.quoteChars, List.cons_append], by decide, by decide⟩
  | list values => exact ⟨_, _, layout.chars_list level values, by decide, by decide⟩
  | object members => exact ⟨_, _, layout.chars_object level members, by decide, by decide⟩

end Value

namespace Reader

/-- The members of an object are put behind those before them. -/
theorem folds_memberOf {layout : Layout} {depth : Nat} {inner : Reader Value}
    {list : List (String × Value)}
    (h : ∀ member ∈ list, ∀ blanks, Spaces blanks →
      Reads inner (blanks ++ layout.chars depth member.2) member.2)
    (before : List (String × Value)) :
    Folds layout depth (memberOf inner) before list (before ++ list) := by
  induction list generalizing before with
  | nil =>
    rw [List.append_nil]
    exact .nil before
  | cons member rest ih =>
    obtain ⟨name, v⟩ := member
    rw [List.forall_mem_cons] at h
    have hrest := ih h.2 (before ++ [(name, v)])
    rw [List.append_assoc, List.singleton_append] at hrest
    refine .cons ?_ hrest
    have hvalue := (h.1 _ layout.spaces_afterColon).bind_pure fun v => before ++ [(name, v)]
    exact (reads_colon spaces_nil).bind hvalue

/-- A scalar is read back, whatever is read inside brackets. -/
theorem reads_scalar {v : Value} (h : v.Plain 0) (inner? : Option (Reader Value)) (layout : Layout)
    (level : Nat) {blanks : List Char} (hblanks : Spaces blanks) :
    Reads (valueAround inner?) (blanks ++ layout.chars level v) v := by
  cases v with
  | null => exact .of_peek hblanks (by decide) ((reads_word_as _ _).of_take 'n')
  | bool b =>
    cases b with
    | true =>
      rw [Layout.chars]
      exact .of_peek hblanks (by decide) ((reads_word_as _ _).of_take 't')
    | false =>
      rw [Layout.chars]
      exact .of_peek hblanks (by decide) ((reads_word_as _ _).of_take 'f')
  | number n => exact h.elim
  | text s =>
    rw [Layout.chars]
    exact .of_peek hblanks (by decide) (((reads_quoted s).map Value.text).of_take '"')
  | list values => exact h.elim
  | object members => exact h.elim

/-- **A written value is read back**, if it has no numbers. -/
theorem reads_value {depth : Nat} {v : Value} (h : v.Plain depth) (layout : Layout) (level : Nat)
    {blanks : List Char} (hblanks : Spaces blanks) :
    Reads (value depth) (blanks ++ layout.chars level v) v := by
  induction depth generalizing v level blanks with
  | zero => exact reads_scalar h none layout level hblanks
  | succ depth ih =>
    cases v with
    | null => exact reads_scalar (v := .null) trivial _ layout level hblanks
    | bool b => exact reads_scalar (v := .bool b) trivial _ layout level hblanks
    | number n => exact h.elim
    | text s => exact reads_scalar (v := .text s) trivial _ layout level hblanks
    | list values =>
      have hread : ∀ v ∈ values, Reads (value depth) (layout.chars (level + 1) v) v :=
        fun v hv => ih (h v hv) (level + 1) spaces_nil
      have hstarts : ∀ v ∈ values, Starts (layout.chars (level + 1) v) :=
        fun v hv => (h v hv).starts layout (level + 1)
      rw [layout.chars_list]
      exact .of_peek hblanks (by decide)
        (((reads_elements layout level hread hstarts).map Value.list).of_take '[')
    | object members =>
      have hfolds : Folds layout (level + 1) (memberOf (value depth)) [] members members :=
        folds_memberOf (fun member hmember blanks hb => ih (h member hmember) (level + 1) hb) []
      rw [layout.chars_object]
      refine .of_peek hblanks (by decide) (Reads.of_take ?_ '\x7b')
      intro left
      rw [List.append_assoc, List.singleton_append, bind_of_ok (hfolds.members_append left),
        bind_of_ok (peek_cons (by decide) left)]
      rfl

/-- A text is the written form of one value without numbers. -/
theorem eq_of_chars_eq {depth : Nat} {v w : Value} (hv : v.Plain depth) (hw : w.Plain depth)
    (layout : Layout) (level : Nat) (h : layout.chars level v = layout.chars level w) : v = w := by
  have hread := reads_value hv layout level spaces_nil []
  rw [h, reads_value hw layout level spaces_nil [], Except.ok.injEq, Prod.mk.injEq] at hread
  exact hread.1.symm

/-- A reader that takes a whole text gives its result. -/
theorem run_of_reads {reader : Reader α} {source : String} {a : α}
    (h : Reads reader source.toList a) : run reader source = .ok a := by
  have hread := h []
  rw [List.append_nil] at hread
  rw [run]
  simp only [bind_of_ok hread]
  rfl

end Reader

/-! ## Records -/

namespace Record

open Reader (Folds Reads)

variable {σ : Type} {record : Record σ} {layout : Layout} {depth : Nat}

/-- A member that is a field, and did not come before, is stored. -/
theorem reads_storeMember {field : Field σ} {state updated : σ} {seen : List String} {name : String}
    {v : Value} (hfield : record.fields.find? (·.name == name) = some field) (hnew : name ∉ seen)
    (hstore : Reads (field.store state) (layout.afterColon ++ layout.chars depth v) updated) :
    Reads (record.storeMember (state, seen) name) (layout.afterName depth v)
      (updated, name :: seen) := by
  have hseen : seen.contains name = false := by simpa using hnew
  have hread : Reads (Reader.colon >>= fun _ => field.store state >>= fun updated =>
      pure (updated, name :: seen)) (layout.afterName depth v) (updated, name :: seen) :=
    (Reader.reads_colon spaces_nil).bind (hstore.bind_pure fun updated => (updated, name :: seen))
  simp only [storeMember, hfield, hseen]
  exact hread

/-- A field may be left out of an object when the record has its value already. -/
theorem folds_field {field : Field σ} {state updated : σ} {seen : List String} {name : String}
    {list : List (String × Value)} (hfield : record.fields.find? (·.name == name) = some field)
    (hnew : name ∉ seen)
    (h : (list = [] ∧ updated = state) ∨ ∃ v, list = [(name, v)] ∧
      Reads (field.store state) (layout.afterColon ++ layout.chars depth v) updated) :
    Folds layout depth record.storeMember (state, seen) list
      (updated, list.map Prod.fst ++ seen) := by
  rcases h with ⟨rfl, rfl⟩ | ⟨v, rfl, hstore⟩
  · exact .nil _
  · exact .cons (reads_storeMember hfield hnew hstore) (.nil _)

/-- Nothing is missing once every field that must be there has been seen. -/
theorem missing?_eq_none {seen : List String}
    (h : ∀ field ∈ record.fields, field.presence = .required → field.name ∈ seen) :
    record.missing? seen = none := by
  rw [missing?, Option.map_eq_none_iff, List.find?_eq_none]
  intro field hfield
  by_cases hrequired : field.presence = .required
  · simp [h field hfield hrequired]
  · simp [hrequired]

/-- **A written record is read back** when its members are stored one after another and none is
missing. -/
theorem reads_read {members : List (String × Value)} {last : σ} {seen : List String}
    (hfolds : Folds layout (depth + 1) record.storeMember (record.blank, []) members (last, seen))
    (hmissing : record.missing? seen = none) {blanks : List Char} (hblanks : Spaces blanks) :
    Reads record.read (blanks ++ layout.chars depth (.object members)) last := by
  rw [layout.chars_object]
  refine .of_start hblanks (by decide) (Reads.of_take ?_ '\x7b')
  intro left
  rw [List.append_assoc, List.singleton_append, Reader.bind_of_ok (hfolds.members_append left)]
  simp only [hmissing]
  rw [Reader.bind_of_ok (Reader.peek_cons (by decide) left)]
  rfl

end Record
end Json
end RestBindings
