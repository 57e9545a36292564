import RestBindings.Code.Object
import RestBindings.Proofs.Code.Form
import RestBindings.Proofs.Naming.Identifiers

/-! # Requests as they are written

The function of a method is one line: it calls the helper with a verb, a URL and an object that has a
property for each part of the request.  A `Request` is what such a line says, and `Request.text` is
the line, character by character: a part is the variable that is sent as it is, or variables under
quoted names.  `Request.read?` takes a line apart again.  Every reader here takes exactly what its
writer writes, as long as no name goes on after it (`Takes`), and in a line nothing goes on after a
name but a comma, a blank or a parenthesis.  So a line is read as the request it was written for
(`Request.read?_text`), and says of no other.
-/
namespace RestBindings
namespace Client

open Code (Form Object)

/-! ## Names -/

theorem matches_name_toIdentifier (s : String) : Form.name.Matches (Naming.toIdentifier s) := by
  constructor
  · intro hempty
    have hnil := congrArg String.toList hempty
    rw [Naming.toList_toIdentifier] at hnil
    exact Naming.toIdentifierChars_ne_nil _ hnil
  · rw [Naming.toList_toIdentifier]
    exact fun c hc => Naming.isIdentifierPart_of_mem_toIdentifierChars hc

/-- An identifier is a name, escaped or not. -/
theorem matches_name_safe (s : String) :
    Form.name.Matches (Naming.Convention.script.safe (Naming.toIdentifier s)) := by
  obtain ⟨-, hparts⟩ := matches_name_toIdentifier s
  rw [Naming.Convention.safe]
  split
  · have hescaped : (Naming.Convention.script.escape (Naming.toIdentifier s)).toList =
        '_' :: (Naming.toIdentifier s).toList := by
      simp [Naming.Convention.script]
    refine ⟨fun hempty => ?_, ?_⟩
    · rw [hempty] at hescaped
      cases hescaped
    · rw [hescaped, List.forall_mem_cons]
      exact ⟨by decide, hparts⟩
  · exact matches_name_toIdentifier s

namespace Fetch

/-! ## What a line says -/

/-- The parts of a request that forward parameters. -/
inductive Part where
  | path
  | query
  | headers
  | body
deriving DecidableEq, Repr

/-- The name of a part among the options of a request. -/
def Part.name : Part → String
  | .path => "path"
  | .query => "query"
  | .headers => "headers"
  | .body => "body"

/-- The parts in the order in which they are written. -/
def Part.all : List Part := [.path, .query, .headers, .body]

/-- What a part of a request sends. -/
inductive Sent where
  /-- A variable as it is. -/
  | whole (value : String)
  /-- An object of variables, each under a name. -/
  | named (entries : List (String × String))
deriving DecidableEq, Repr

namespace Sent

/-- The variables that are sent. -/
def values : Sent → List String
  | .whole value => [value]
  | .named entries => entries.map Prod.snd

/-- The variables that are sent under names, after their names. -/
def entries : Sent → List (String × String)
  | .whole _ => []
  | .named entries => entries

end Sent

/-- A request: what it calls, and the parts that it sends, in order. -/
structure Request where
  verb : String
  url : String
  parts : List (Part × Sent)
deriving DecidableEq, Repr

namespace Request

/-- The variables that stand in a part. -/
def values (r : Request) (part : Part) : List String :=
  r.parts.flatMap fun o => if o.1 = part then o.2.values else []

/-- The variables that stand in a part under names, after their names. -/
def entries (r : Request) (part : Part) : List (String × String) :=
  r.parts.flatMap fun o => if o.1 = part then o.2.entries else []

end Request

/-! ## How it is written -/

/-- An object on one line, by the texts of its properties. -/
def braced : List String → String
  | [] => "\x7b\x7d"
  | items => "\x7b " ++ String.intercalate ", " items ++ " \x7d"

/-- A variable under a name. -/
def entryText (entry : String × String) : String := Text.quote entry.1 ++ ": " ++ entry.2

/-- What is written of what a part sends. -/
def Sent.text : Sent → String
  | .whole value => value
  | .named entries => braced (entries.map entryText)

/-- A part among the options of a request. -/
def optionText (o : Part × Sent) : String := o.1.name ++ ": " ++ o.2.text

/-- **The line of a request.** -/
def Request.text (r : Request) : String :=
  "return request(" ++ Text.quote r.verb ++ ", " ++ Text.quote r.url ++ ", "
    ++ braced (r.parts.map optionText) ++ ");"

/-- The object literals of generated code are written so, if every value has a form on one line. -/
theorem inline_eq_braced {object : Object}
    (h : ∀ p ∈ object, (Object.inlineValue? p.2).isSome = true) :
    Object.inline object = braced (Object.inlineProperties object) := by
  cases object with
  | nil => rfl
  | cons p rest =>
    obtain ⟨value, hvalue⟩ := Option.isSome_iff_exists.mp (h p List.mem_cons_self)
    rw [Object.inline_cons, Object.inlineProperties_eq_filterMap, List.filterMap_cons, hvalue]
    rfl

/-! ## Reading it -/

/-- What follows a known start. -/
def after? (start : String) (cs : List Char) : Option (List Char) := cs.dropPrefix? start.toList

/-- Read a name: the characters that an identifier can hold. -/
def name? (cs : List Char) : Option (String × List Char) :=
  if cs.takeWhile Naming.isIdentifierPart = [] then none
  else
    some (String.ofList (cs.takeWhile Naming.isIdentifierPart),
      cs.dropWhile Naming.isIdentifierPart)

/-- Read items with commas between them, up to the brace that closes their object. -/
def itemsFrom? {α : Type} (item : List Char → Option (α × List Char)) :
    (fuel : Nat) → List Char → Option (List α × List Char)
  | 0, _ => none
  | fuel + 1, cs => do
    let (a, cs) ← item cs
    match after? ", " cs with
    | some cs =>
      let (rest, cs) ← itemsFrom? item fuel cs
      pure (a :: rest, cs)
    | none =>
      let cs ← after? " \x7d" cs
      pure ([a], cs)

/-- Read an object on one line, by a reader for its properties. -/
def object? {α : Type} (item : List Char → Option (α × List Char)) (cs : List Char) :
    Option (List α × List Char) :=
  match after? "\x7b\x7d" cs with
  | some cs => some ([], cs)
  | none => do
    let cs ← after? "\x7b " cs
    itemsFrom? item cs.length cs

/-- Read a variable under a name. -/
def entry? (cs : List Char) : Option ((String × String) × List Char) := do
  let (name, cs) ← Text.unquote? cs
  let cs ← after? ": " cs
  let (value, cs) ← name? cs
  pure ((name, value), cs)

/-- Read what a part sends: an object of variables, or one variable. -/
def sent? (cs : List Char) : Option (Sent × List Char) :=
  if cs.head? = some '\x7b' then do
    let (entries, cs) ← object? entry? cs
    pure (.named entries, cs)
  else do
    let (value, cs) ← name? cs
    pure (.whole value, cs)

/-- Read a part among the options of a request. -/
def option? (cs : List Char) : Option ((Part × Sent) × List Char) := do
  let (name, cs) ← name? cs
  let part ← Part.all.find? (·.name == name)
  let cs ← after? ": " cs
  let (sent, cs) ← sent? cs
  pure ((part, sent), cs)

/-- **Read the line of a request.** -/
def Request.read? (line : String) : Option Request := do
  let (verb, cs) ← Text.quotedAfter? "return request(" line.toList
  let (url, cs) ← Text.quotedAfter? ", " cs
  let cs ← after? ", " cs
  let (parts, cs) ← object? option? cs
  if cs = ");".toList then some ⟨verb, url, parts⟩ else none

/-! ## What is written is read back -/

/-- No name goes on at the start of a text. -/
def EndsName (left : List Char) : Prop :=
  ∀ c ∈ left.head?, Naming.isIdentifierPart c = false

/-- The reader takes exactly the text where no name goes on after it, and gives the result. -/
def Takes {α : Type} (read : List Char → Option (α × List Char)) (text : String) (a : α) : Prop :=
  ∀ left, EndsName left → read (text.toList ++ left) = some (a, left)

/-- A mark that no name can hold ends a name. -/
theorem endsName_append (mark : String)
    (h : (mark.toList.head?.any (!Naming.isIdentifierPart ·)) = true) (left : List Char) :
    EndsName (mark.toList ++ left) := by
  obtain ⟨c, hhead, hc⟩ := (Option.any_eq_true _ _).mp h
  intro d hd
  rw [List.head?_append, hhead, Option.some_or] at hd
  cases hd
  simpa using hc

theorem after?_append (start : String) (left : List Char) :
    after? start (start.toList ++ left) = some left :=
  List.dropPrefix?_append_of_beq _ (BEq.refl _)

theorem takes_name {name : String} (h : Form.name.Matches name) : Takes name? name name := by
  intro left hleft
  obtain ⟨hne, hparts⟩ := h
  have hnil : name.toList ≠ [] := fun hnil => hne (String.toList_eq_nil_iff.mp hnil)
  have htake : left.takeWhile Naming.isIdentifierPart = [] := by
    cases left with
    | nil => rfl
    | cons c left => exact List.takeWhile_cons_of_neg (by simp [hleft c rfl])
  have hdrop : left.dropWhile Naming.isIdentifierPart = left := by
    cases left with
    | nil => rfl
    | cons c left => exact List.dropWhile_cons_of_neg (by simp [hleft c rfl])
  rw [name?, List.takeWhile_append_of_pos hparts, List.dropWhile_append_of_pos hparts, htake,
    hdrop, List.append_nil, if_neg hnil, String.ofList_toList]

section Objects

variable {α : Type} {item : List Char → Option (α × List Char)} {text : α → String}

/-- Items that are written one after another are read one after another. -/
theorem itemsFrom?_intercalate {a : α} {rest : List α} (h : ∀ b ∈ a :: rest, Takes item (text b) b)
    {fuel : Nat} (hfuel : rest.length < fuel) (left : List Char) :
    itemsFrom? item fuel
        ((String.intercalate ", " ((a :: rest).map text) ++ " \x7d").toList ++ left) =
      some (a :: rest, left) := by
  induction rest generalizing a fuel with
  | nil =>
    obtain ⟨fuel, rfl⟩ : ∃ n, fuel = n + 1 := ⟨fuel - 1, by omega⟩
    have hfirst := h a List.mem_cons_self _ (endsName_append " \x7d" (by decide) left)
    have hcomma : after? ", " (" \x7d".toList ++ left) = none := rfl
    rw [List.map_singleton, String.intercalate_singleton, String.toList_append, List.append_assoc,
      itemsFrom?, hfirst]
    simp only [Option.bind_eq_bind, Option.bind_some, hcomma, after?_append]
    rfl
  | cons b rest ih =>
    obtain ⟨fuel, rfl⟩ : ∃ n, fuel = n + 1 := ⟨fuel - 1, by omega⟩
    rw [List.forall_mem_cons] at h
    have hrest := ih h.2 (Nat.lt_of_succ_lt_succ hfuel)
    have hchars : (String.intercalate ", " ((a :: b :: rest).map text) ++ " \x7d").toList ++ left =
        (text a).toList ++ (", ".toList
          ++ ((String.intercalate ", " ((b :: rest).map text) ++ " \x7d").toList ++ left)) := by
      simp only [List.map_cons, String.intercalate_cons_cons, String.toList_append,
        List.append_assoc]
    have hfirst := h.1 _ (endsName_append ", " (by decide)
      ((String.intercalate ", " ((b :: rest).map text) ++ " \x7d").toList ++ left))
    rw [hchars, itemsFrom?, hfirst]
    simp only [Option.bind_eq_bind, Option.bind_some, after?_append, hrest]
    rfl

/-- There are no more items than characters. -/
theorem length_le_length_intercalate (items : List String) :
    items.length ≤ (String.intercalate ", " items ++ " \x7d").toList.length := by
  induction items with
  | nil => exact Nat.zero_le _
  | cons s rest ih =>
    cases rest with
    | nil => simp
    | cons t rest =>
      have hcomma : ", ".toList.length = 2 := rfl
      rw [String.intercalate_cons_cons]
      simp only [String.toList_append, List.length_append, List.length_cons] at ih ⊢
      omega

/-- An object is read by its properties. -/
theorem takes_object {xs : List α} (h : ∀ a ∈ xs, Takes item (text a) a) :
    Takes (object? item) (braced (xs.map text)) xs := by
  intro left _
  cases xs with
  | nil => rw [List.map_nil, braced, object?, after?_append]
  | cons a rest =>
    have hempty (cs : List Char) : after? "\x7b\x7d" ("\x7b ".toList ++ cs) = none := rfl
    have hchars : (braced ((a :: rest).map text)).toList ++ left =
        "\x7b ".toList ++ ((String.intercalate ", " ((a :: rest).map text) ++ " \x7d").toList
          ++ left) := by
      simp only [braced, List.map_cons, String.toList_append, List.append_assoc]
    have hlength := length_le_length_intercalate ((a :: rest).map text)
    rw [List.length_map, List.length_cons] at hlength
    rw [hchars, object?, hempty]
    simp only [Option.bind_eq_bind, after?_append, Option.bind_some]
    refine itemsFrom?_intercalate h ?_ left
    rw [List.length_append]
    omega

end Objects

theorem takes_entry {entry : String × String} (h : Form.name.Matches entry.2) :
    Takes entry? (entryText entry) entry := by
  intro left hleft
  rw [entryText, String.toList_append, String.toList_append, List.append_assoc, List.append_assoc,
    entry?]
  simp only [Option.bind_eq_bind, Text.unquote?_quote, Option.bind_some, after?_append,
    takes_name h left hleft]
  rfl

theorem takes_sent {sent : Sent} (h : ∀ v ∈ sent.values, Form.name.Matches v) :
    Takes sent? sent.text sent := by
  intro left hleft
  cases sent with
  | whole value =>
    obtain ⟨hne, hparts⟩ := h value (List.mem_singleton_self _)
    have hbrace : (value.toList ++ left).head? ≠ some '\x7b' := by
      obtain ⟨c, rest, hcons⟩ := List.exists_cons_of_ne_nil
        fun hnil => hne (String.toList_eq_nil_iff.mp hnil)
      rw [hcons]
      rintro ⟨⟩
      have hpart := hparts '\x7b' (hcons ▸ List.mem_cons_self)
      exact absurd hpart (by decide)
    rw [Sent.text, sent?, if_neg hbrace, takes_name ⟨hne, hparts⟩ left hleft]
    rfl
  | named entries =>
    have hentries : ∀ e ∈ entries, Takes entry? (entryText e) e :=
      fun e he => takes_entry (h e.2 (List.mem_map_of_mem he))
    have hbrace : ((braced (entries.map entryText)).toList ++ left).head? = some '\x7b' := by
      cases entries with
      | nil => rfl
      | cons e rest => simp [braced]
    rw [Sent.text, sent?, if_pos hbrace, takes_object hentries left hleft]
    rfl

theorem Part.matches_name (part : Part) : Form.name.Matches part.name := by
  have hletters : part.name.toList.all Char.isAlpha = true := by cases part <;> rfl
  refine ⟨by cases part <;> decide, fun c hc => ?_⟩
  exact Naming.isIdentifierPart_of_isIdentifierStart
    (Naming.isIdentifierStart_of_isAlpha (List.all_eq_true.mp hletters c hc))

theorem takes_option {o : Part × Sent} (h : ∀ v ∈ o.2.values, Form.name.Matches v) :
    Takes option? (optionText o) o := by
  intro left hleft
  obtain ⟨part, sent⟩ := o
  have hname := part.matches_name
  have hfind : Part.all.find? (·.name == part.name) = some part := by cases part <;> rfl
  have hends := endsName_append ": " (by decide) (sent.text.toList ++ left)
  rw [optionText, String.toList_append, String.toList_append, List.append_assoc, List.append_assoc,
    option?, takes_name hname _ hends]
  simp only [Option.bind_eq_bind, Option.bind_some, hfind, after?_append, takes_sent h left hleft]
  rfl

/-- **The line of a request is read back**, whatever the verb, the URL and the names are. -/
theorem Request.read?_text {r : Request}
    (h : ∀ o ∈ r.parts, ∀ v ∈ o.2.values, Form.name.Matches v) : read? r.text = some r := by
  have hparts := takes_object (fun o ho => takes_option (h o ho)) _
    (endsName_append ");" (by decide) [])
  rw [List.append_nil] at hparts
  have hline : r.text.toList =
      "return request(".toList ++ ((Text.quote r.verb).toList ++ (", ".toList
        ++ ((Text.quote r.url).toList ++ (", ".toList
          ++ ((braced (r.parts.map optionText)).toList ++ ");".toList))))) := by
    unfold text
    simp only [String.toList_append, List.append_assoc]
  rw [read?, hline]
  simp only [Option.bind_eq_bind, Text.quotedAfter?_append, Option.bind_some, after?_append, hparts]
  rfl

end Fetch
end Client
end RestBindings
