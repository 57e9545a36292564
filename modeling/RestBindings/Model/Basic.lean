import RestBindings.Registry.RestClass

/-! # Models

A model is a described class: its name says whether it is the user model, whose clients get session
helpers.  `Models` holds models by name in the order in which their names first came, so it is a map
that remembers an order: replacing a model keeps its place, and two collections are the same
(`Models.Same`) when they hold the same models, whatever their orders.
-/
namespace RestBindings

open Json (Value)

/-- A described class. -/
structure Model where
  /-- The class, with the parameters of constructors merged into its methods. -/
  restClass : RestClass
  /-- Whether it is the user model. -/
  isUser : Bool
deriving DecidableEq, Repr

namespace Model

/-- The lower-case form of the name is `user`. -/
def isUserName (name : String) : Bool :=
  name.toList.flatMap Text.lower == ['u', 's', 'e', 'r']

/-- The model of a class. -/
def ofClass (c : RestClass) : Model := { restClass := c, isUser := isUserName c.name }

variable (m : Model)

/-- The name of the model. -/
def name : String := m.restClass.name

/-- The parameters of its constructor, if it has one. -/
def ctor : Option (List Param) := m.restClass.ctor

/-- Its methods. -/
def methods : List Method := m.restClass.methods

/-- Its path. -/
def httpPath : String := m.restClass.httpPath

/-- The written form of a model: that of its class, and whether it is the user model. -/
def toJson : Value := .object (m.restClass.jsonMembers ++ [("isUser", .bool m.isUser)])

@[simp] theorem name_ofClass (c : RestClass) : (ofClass c).name = c.name := rfl

end Model

/-- Replace the model with the name of `m`, or add `m` at the end. -/
def insertModel (m : Model) : List Model → List Model
  | [] => [m]
  | n :: rest => if n.name = m.name then m :: rest else n :: insertModel m rest

theorem mem_map_name_insertModel {m : Model} {l : List Model} {name : String} :
    name ∈ (insertModel m l).map Model.name ↔ name = m.name ∨ name ∈ l.map Model.name := by
  induction l with
  | nil => simp [insertModel]
  | cons n rest ih =>
    rw [insertModel]
    split
    next h => simp [h]
    next h =>
      simp only [List.map_cons, List.mem_cons, ih]
      constructor
      · rintro (h | h | h) <;> simp [h]
      · rintro (h | h | h) <;> simp [h]

theorem nodup_insertModel {m : Model} {l : List Model} (h : (l.map Model.name).Nodup) :
    ((insertModel m l).map Model.name).Nodup := by
  induction l with
  | nil => simp [insertModel]
  | cons n rest ih =>
    rw [List.map_cons, List.nodup_cons] at h
    rw [insertModel]
    split
    next hn => simpa [← hn] using h
    next hn =>
      rw [List.map_cons, List.nodup_cons]
      refine ⟨fun hmem => ?_, ih h.2⟩
      rcases mem_map_name_insertModel.mp hmem with he | he
      · exact hn he
      · exact h.1 he

/-- `insertModel`, with the model that is replaced. -/
def exchangeModel (m : Model) : List Model → Option Model × List Model
  | [] => (none, [m])
  | n :: rest =>
    if n.name = m.name then (some n, m :: rest)
    else
      let (replaced, rest) := exchangeModel m rest
      (replaced, n :: rest)

theorem exchangeModel_snd (m : Model) (l : List Model) : (exchangeModel m l).2 = insertModel m l := by
  induction l with
  | nil => rfl
  | cons n rest ih =>
    rw [exchangeModel, insertModel]
    split
    · rfl
    · rw [← ih]

/-- Models by name, in the order in which their names first came. -/
structure Models where
  /-- The models in order. -/
  toList : List Model
  /-- No name comes twice. -/
  nodup_names : (toList.map Model.name).Nodup := by simp
deriving Repr

namespace Models

instance : DecidableEq Models := fun a b =>
  decidable_of_iff (a.toList = b.toList) (by cases a; cases b; simp)

/-- No models. -/
def empty : Models := { toList := [] }

variable (models : Models)

/-- The names in order. -/
def names : List String := models.toList.map Model.name

/-- The number of models. -/
def size : Nat := models.toList.length

/-- There are no models. -/
def isEmpty : Bool := models.toList.isEmpty

/-- The model with a name. -/
def get? (name : String) : Option Model := models.toList.find? (·.name == name)

/-- There is a model with a name. -/
def contains (name : String) : Bool := models.toList.any (·.name == name)

/-- Add a model; a model with its name is replaced in its place. -/
def insert (m : Model) : Models :=
  { toList := insertModel m models.toList, nodup_names := nodup_insertModel models.nodup_names }

/-- Add a model as `insert` does, and tell which model it replaced. -/
def exchange (m : Model) : Option Model × Models :=
  let answer := exchangeModel m models.toList
  (answer.1, {
    toList := answer.2
    nodup_names := exchangeModel_snd m models.toList ▸ nodup_insertModel models.nodup_names })

/-- The models of a list; later models replace earlier ones of their name. -/
def ofList (l : List Model) : Models := l.foldl Models.insert empty

/-- The same models by name, in any order. -/
def Same (a b : Models) : Prop :=
  a.size = b.size ∧ ∀ m ∈ a.toList, b.get? m.name = some m

instance (a b : Models) : Decidable (a.Same b) := by
  unfold Same
  infer_instance

/-- The written form of models: an object with a member for each. -/
def toJson : Value := .object (models.toList.map fun m => (m.name, m.toJson))

@[simp] theorem toList_empty : empty.toList = [] := rfl

@[simp] theorem toList_insert (m : Model) :
    (models.insert m).toList = insertModel m models.toList := rfl

end Models
end RestBindings
