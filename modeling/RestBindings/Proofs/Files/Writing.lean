import RestBindings.Files.Tree
import RestBindings.Proofs.Files.Path

/-! # What writing does to the files

A write makes the directories above its file that are missing and then puts the text into the file.
Both only add to what is there.  A path is followed over directories, and no directory is lost on the
way, so a path that led to a place before a step leads there after it (`locate_of_directories`).  So a
file that was written is read back under the same path (`Written`), and what stands elsewhere stays.

The directories above a file may be made and the file itself be refused; then nothing but directories
has been added.

When a write succeeds can be told from the path and the tree before it (`write_eq_ok_iff`).  Nothing
on the way may be a file.  What is missing there is made, by way of the parents, which pass the same
places (`passed_of_parent?`).  It is not enough that the path leads to no directory so far: `a/../a`
passes the place it leads to, so where `a` is missing a directory is made there, and then the file has
no place left.
-/
namespace RestBindings
namespace Files
namespace Tree

variable {tree later last : Tree} {path : String}

/-! ## Places -/

/-- A place that is there in every tree: one above the working directory, or the root. -/
def isFixed (l : Location) : Bool := l.all (· == "..") || l == ["/"]

theorem node?_of_isFixed {l : Location} (h : isFixed l = true) :
    tree.node? l = some .directory := if_pos h

theorem node?_of_not_isFixed {l : Location} (h : isFixed l = false) :
    tree.node? l = tree.nodes.lookup l := if_neg (by rw [isFixed] at h; simp [h])

/-- What is looked up among entries without those of one place. -/
theorem lookup_filter_ne (nodes : List (Location × Node)) (l l' : Location) :
    (nodes.filter fun entry => entry.1 != l).lookup l' =
      if l' = l then none else nodes.lookup l' := by
  induction nodes with
  | nil => simp
  | cons entry rest ih =>
    obtain ⟨key, n⟩ := entry
    by_cases hkey : key = l
    · subst hkey
      rw [List.filter_cons_of_neg (by simp), ih]
      by_cases hl : l' = key
      · rw [if_pos hl, if_pos hl]
      · rw [if_neg hl, if_neg hl, List.lookup_cons, beq_eq_false_iff_ne.mpr hl]
    · rw [List.filter_cons_of_pos (by simpa using hkey), List.lookup_cons, List.lookup_cons, ih]
      by_cases hl : l' = key
      · subst hl
        simp only [if_neg hkey, beq_self_eq_true]
      · rw [beq_eq_false_iff_ne.mpr hl]

/-- Where a node is put, it is found. -/
theorem node?_set_self {l : Location} (h : isFixed l = false) (n : Node) :
    (tree.set l n).node? l = some n := by
  rw [node?_of_not_isFixed h, set, List.lookup_append, lookup_filter_ne, if_pos rfl]
  simp

/-- Elsewhere all is as before. -/
theorem node?_set_of_ne {l l' : Location} (h : l' ≠ l) (n : Node) :
    (tree.set l n).node? l' = tree.node? l' := by
  cases hfixed : isFixed l' with
  | true => rw [node?_of_isFixed hfixed, node?_of_isFixed hfixed]
  | false =>
    rw [node?_of_not_isFixed hfixed, node?_of_not_isFixed hfixed, set, List.lookup_append,
      lookup_filter_ne, if_neg h, List.lookup_cons, beq_eq_false_iff_ne.mpr h]
    simp

/-- A place where no directory is, or nothing at all, is not fixed. -/
theorem isFixed_of_ne {l : Location} (h : tree.node? l ≠ some .directory) : isFixed l = false := by
  rw [Bool.eq_false_iff]
  intro hfixed
  exact h (node?_of_isFixed hfixed)

/-! ## Following a path -/

/-- The place a path starts from. -/
def startOf (path : String) : Location := if isAbsolute path then ["/"] else []

/-- The places that steps leave, from the first on. -/
def way (l : Location) : List String → List Location
  | [] => []
  | step :: rest => l :: way (enter l step) rest

/-- The places that a path passes before the one it leads to. -/
def passed (path : String) : List Location := way (startOf path) (pathSteps path)

/-- The place that a path leads to, whatever is on the way. -/
def goal (path : String) : Location := (pathSteps path).foldl enter (startOf path)

theorem isFixed_startOf (path : String) : isFixed (startOf path) = true := by
  rw [startOf]
  split <;> decide

theorem way_append (l : Location) (steps : List String) (step : String) :
    way l (steps ++ [step]) = way l steps ++ [steps.foldl enter l] := by
  induction steps generalizing l with
  | nil => rfl
  | cons first rest ih => rw [List.cons_append, way, ih, way, List.foldl_cons, List.cons_append]

/-- A path passes what its parent passes, and then the place of the parent. -/
theorem passed_of_parent? {above : String} (h : parent? path = some above)
    (hsteps : pathSteps path ≠ []) : passed path = passed above ++ [goal above] := by
  have hstart : startOf above = startOf path := by rw [startOf, startOf, isAbsolute_of_parent? h]
  rw [passed, passed, goal, hstart, pathSteps_of_parent? h, ← way_append,
    List.dropLast_append_getLast hsteps]

/-- **Following a path needs directories only.** -/
theorem follow_eq_ok_iff {steps : List String} {l m : Location} :
    tree.follow l steps = .ok m ↔
      (∀ p ∈ way l steps, tree.node? p = some .directory) ∧ steps.foldl enter l = m := by
  induction steps generalizing l with
  | nil => simp [follow, way]
  | cons step rest ih =>
    rw [follow, way, List.forall_mem_cons, List.foldl_cons, and_assoc, ← ih]
    split
    next hl => simp [hl]
    next content hl => simp [hl]
    next hl => simp [hl]

/-- Where no file is in the way, only a missing directory stops it. -/
theorem follow_eq_missing {steps : List String} {l : Location}
    (hfile : ∀ p ∈ way l steps, ∀ content, tree.node? p ≠ some (.file content))
    (hno : ¬ ∀ p ∈ way l steps, tree.node? p = some .directory) :
    tree.follow l steps = .error .missing := by
  induction steps generalizing l with
  | nil => exact absurd nofun hno
  | cons step rest ih =>
    rw [way, List.forall_mem_cons] at hfile hno
    rw [follow]
    split
    next hl => exact ih hfile.2 fun hrest => hno ⟨hl, hrest⟩
    next content hl => exact absurd hl (hfile.1 content)
    next => rfl

theorem locate_eq (hempty : path.isEmpty = false) (hzero : '\x00' ∉ path.toList) :
    tree.locate path = tree.follow (startOf path) (pathSteps path) := by
  rw [locate, if_neg (by simp [hempty]), if_neg (by simpa using hzero), startOf]

/-- A path leads to its goal where all that it passes are directories. -/
theorem locate_eq_ok_iff {l : Location} :
    tree.locate path = .ok l ↔ (path.isEmpty = false ∧ '\x00' ∉ path.toList) ∧
      (∀ p ∈ passed path, tree.node? p = some .directory) ∧ goal path = l := by
  by_cases hpath : path.isEmpty = false ∧ '\x00' ∉ path.toList
  · rw [locate_eq hpath.1 hpath.2, follow_eq_ok_iff, and_iff_right hpath, passed, goal]
  · refine iff_of_false ?_ fun h => hpath h.1
    rw [locate]
    split
    next => nofun
    next hempty =>
      split
      next => nofun
      next hzero => exact absurd ⟨by simpa using hempty, by simpa using hzero⟩ hpath

/-- A tree that has all directories of another follows a path to the same place. -/
theorem locate_of_directories
    (hdirectories : ∀ l, tree.node? l = some .directory → later.node? l = some .directory)
    {l : Location} (h : tree.locate path = .ok l) : later.locate path = .ok l := by
  rw [locate_eq_ok_iff] at h ⊢
  exact ⟨h.1, fun p hp => hdirectories p (h.2.1 p hp), h.2.2⟩

/-- A path that leads to a file, and names no directory, reads its content. -/
theorem read?_of_locate {l : Location} {content : String} (h : tree.locate path = .ok l)
    (hpath : namesDirectory path = false) (hl : tree.node? l = some (.file content)) :
    tree.read? path = some content := by
  rw [read?, find?, h]
  simp [hl, hpath]

/-! ## Growing -/

/-- **A tree grows** where `p` holds: what is there stays, and only directories are added. -/
structure Grows (p : Location → Prop) (tree later : Tree) : Prop where
  kept : ∀ l n, p l → tree.node? l = some n → later.node? l = some n
  added : ∀ l n, p l → later.node? l = some n → tree.node? l = some n ∨ n = .directory

/-- It grows everywhere. -/
abbrev GrowsOnly (tree later : Tree) : Prop := Grows (fun _ => True) tree later

theorem Grows.refl {p : Location → Prop} : Grows p tree tree where
  kept _ _ _ h := h
  added _ _ _ h := .inl h

theorem Grows.trans {p : Location → Prop} (h : Grows p tree later) (h' : Grows p later last) :
    Grows p tree last where
  kept l n hp hn := h'.kept l n hp (h.kept l n hp hn)
  added l n hp hn := by
    obtain hn | rfl := h'.added l n hp hn
    · exact h.added l n hp hn
    · exact .inr rfl

theorem Grows.imp {p q : Location → Prop} (h : Grows p tree later) (hpq : ∀ l, q l → p l) :
    Grows q tree later where
  kept l n hq := h.kept l n (hpq l hq)
  added l n hq := h.added l n (hpq l hq)

theorem grows_set (l : Location) (n : Node) : Grows (· ≠ l) tree (tree.set l n) where
  kept _ _ hl h := (node?_set_of_ne hl n).trans h
  added _ _ hl h := .inl ((node?_set_of_ne hl n).symm.trans h)

/-! ## Making directories -/

/-- One directory is made, where nothing was. -/
theorem grows_makeDirectory (h : tree.makeDirectory path = .ok later) : GrowsOnly tree later := by
  rw [makeDirectory] at h
  split at h
  next => cases h
  next l hl =>
    split at h
    next => cases h
    next hsome =>
      cases h
      have hnone : tree.node? l = none := by simpa using hsome
      have hno : tree.node? l ≠ some .directory := by simp [hnone]
      have hfixed : isFixed l = false := isFixed_of_ne hno
      exact {
        kept := fun l' n _ hn => by
          have hne : l' ≠ l := by
            rintro rfl
            rw [hnone] at hn
            cases hn
          exact (grows_set l .directory).kept l' n hne hn
        added := fun l' n _ hn => by
          by_cases hl' : l' = l
          · subst hl'
            rw [node?_set_self hfixed] at hn
            exact .inr (Option.some.inj hn).symm
          · exact (grows_set l .directory).added l' n hl' hn }

/-- Making directories only adds directories, however far it comes. -/
theorem grows_makeDirectoriesUpTo (fuel : Nat) (tree : Tree) (path : String) :
    GrowsOnly tree (tree.makeDirectoriesUpTo fuel path).2 := by
  induction fuel generalizing tree path with
  | zero => exact .refl
  | succ fuel ih =>
    rw [makeDirectoriesUpTo]
    split
    next => exact .refl
    next =>
      split
      next made hmade => exact grows_makeDirectory hmade
      next => exact .refl
      next =>
        split
        next => exact .refl
        next above habove =>
          have hgrows := ih tree above
          split
          next made hmade =>
            rw [hmade] at hgrows
            exact hgrows
          next made hmade =>
            rw [hmade] at hgrows
            split
            next last hlast => exact hgrows.trans (grows_makeDirectory hlast)
            next => exact hgrows

/-! ## Writing -/

/-- **What a write leaves** of a tree: the file holds the text, and elsewhere only directories are
added. -/
structure Written (tree : Tree) (path content : String) (later : Tree) : Prop where
  read : later.read? path = some content
  elsewhere : ∃ l, later.locate path = .ok l ∧ Grows (· ≠ l) tree later

theorem put?_eq_some_iff {content : String} :
    tree.put? path content = some later ↔
      namesDirectory path = false ∧ ∃ l, tree.locate path = .ok l ∧
        tree.node? l ≠ some .directory ∧ tree.set l (.file content) = later := by
  rw [put?]
  cases namesDirectory path with
  | true => simp
  | false =>
    cases tree.locate path with
    | error obstacle => simp
    | ok l => simp

/-- A text that is put into a file is read back, and no other place is changed. -/
theorem written_of_put? {content : String} (h : tree.put? path content = some later) :
    Written tree path content later := by
  obtain ⟨hpath, l, hl, hdirectory, rfl⟩ := put?_eq_some_iff.mp h
  have hlocate : (tree.set l (.file content)).locate path = .ok l := by
    refine locate_of_directories (fun l' hl' => ?_) hl
    have hne : l' ≠ l := by
      rintro rfl
      exact hdirectory hl'
    exact (node?_set_of_ne hne _).trans hl'
  exact {
    read := read?_of_locate hlocate hpath (node?_set_self (isFixed_of_ne hdirectory) _)
    elsewhere := ⟨l, hlocate, grows_set l (.file content)⟩ }

/-- The directories above a file, made if they are missing: whether they are there, and the tree. -/
def makeAbove (tree : Tree) (path : String) : Bool × Tree :=
  match parent? path with
  | none => (true, tree)
  | some above => tree.makeDirectories above

theorem grows_makeAbove (tree : Tree) (path : String) : GrowsOnly tree (tree.makeAbove path).2 := by
  rw [makeAbove]
  split
  · exact .refl
  · exact grows_makeDirectoriesUpTo _ tree _

/-- A write in its two steps. -/
theorem write_eq (content : String) :
    tree.write path content =
      if (tree.makeAbove path).1 = true then
        match (tree.makeAbove path).2.put? path content with
        | some later => (.ok (), later)
        | none => (.error (.file path), (tree.makeAbove path).2)
      else (.error (.directory ((parent? path).getD "")), (tree.makeAbove path).2) := rfl

/-- A write succeeds with both steps. -/
theorem write_eq_ok_iff_put? {content : String} :
    tree.write path content = (.ok (), later) ↔
      (tree.makeAbove path).1 = true ∧ (tree.makeAbove path).2.put? path content = some later := by
  rw [write_eq]
  split
  next hmade =>
    rw [and_iff_right hmade]
    cases (tree.makeAbove path).2.put? path content with
    | none => simp
    | some written => simp
  next hmade => simp [hmade]

/-- **What a write does**: it leaves the file with the text, or it is refused and leaves nothing but
directories that were missing. -/
theorem write_cases (tree : Tree) (path content : String) :
    (∃ later, tree.write path content = (.ok (), later) ∧ Written tree path content later) ∨
    (∃ error later, tree.write path content = (.error error, later) ∧ GrowsOnly tree later) := by
  have hgrows := grows_makeAbove tree path
  rw [write_eq]
  split
  next hmade =>
    cases hput : (tree.makeAbove path).2.put? path content with
    | none => exact .inr ⟨_, _, rfl, hgrows⟩
    | some later =>
      obtain ⟨hread, l, hlocate, helsewhere⟩ := written_of_put? hput
      exact .inl ⟨later, rfl, hread, l, hlocate,
        (hgrows.imp fun _ _ => trivial).trans helsewhere⟩
  next => exact .inr ⟨_, _, rfl, hgrows⟩

/-- The directories above the file are made. -/
example :
    (write {} "js/v1/a.js" "var a;").2.nodes =
        [(["js"], .directory), (["js", "v1"], .directory), (["js", "v1", "a.js"], .file "var a;")] ∧
      (write {} "js/v1/a.js" "var a;").2.read? "./js/v1/../v1/a.js" = some "var a;" := by
  decide

/-! ## Where directories can be made -/

/-- **Places are opened**: a directory is at each of them, and all else is as before. -/
structure Opens (places : List Location) (tree later : Tree) : Prop where
  directory : ∀ l ∈ places, later.node? l = some .directory
  elsewhere : ∀ l, l ∉ places → later.node? l = tree.node? l

theorem Opens.refl {places : List Location}
    (h : ∀ l ∈ places, tree.node? l = some .directory) : Opens places tree tree where
  directory := h
  elsewhere _ _ := rfl

/-- Some of the places may be opened first. -/
theorem Opens.append {places : List Location} {l : Location} (h : Opens places tree later)
    (h' : Opens (places ++ [l]) later last) : Opens (places ++ [l]) tree last where
  directory := h'.directory
  elsewhere m hm := by
    rw [h'.elsewhere m hm, h.elsewhere m fun hmem => hm (List.mem_append_left [l] hmem)]

/-- A place that is opened or was free holds no file. -/
theorem Opens.ne_file {places : List Location} {l : Location} {content : String}
    (h : Opens places tree later) (hl : tree.node? l ≠ some (.file content)) :
    later.node? l ≠ some (.file content) := by
  by_cases hmem : l ∈ places
  · simp [h.directory l hmem]
  · rwa [h.elsewhere l hmem]

section Clear

variable (hempty : path.isEmpty = false) (hzero : '\x00' ∉ path.toList)
include hempty hzero

/-- Below directories, one directory is made or is there. -/
theorem makeDirectory_cases (hpassed : ∀ l ∈ passed path, tree.node? l = some .directory)
    (hfile : ∀ content, tree.node? (goal path) ≠ some (.file content)) :
    (∃ made, tree.makeDirectory path = .ok made ∧ Opens (passed path ++ [goal path]) tree made) ∨
    (tree.makeDirectory path = .error .blocked ∧ tree.isDirectory path = true ∧
      Opens (passed path ++ [goal path]) tree tree) := by
  have hlocate : tree.locate path = .ok (goal path) :=
    locate_eq_ok_iff.mpr ⟨⟨hempty, hzero⟩, hpassed, rfl⟩
  rw [makeDirectory, isDirectory, find?, hlocate]
  dsimp only
  cases hgoal : tree.node? (goal path) with
  | none =>
    have hno : tree.node? (goal path) ≠ some .directory := by simp [hgoal]
    have hne : ∀ l ∈ passed path, l ≠ goal path := by
      rintro l hl rfl
      rw [hpassed _ hl] at hgoal
      cases hgoal
    refine .inl ⟨tree.set (goal path) .directory, rfl, ?_, fun l hl => ?_⟩
    · rw [List.forall_mem_append, List.forall_mem_singleton]
      exact ⟨fun l hl => (node?_set_of_ne (hne l hl) _).trans (hpassed l hl),
        node?_set_self (isFixed_of_ne hno) _⟩
    · rw [List.mem_append, List.mem_singleton, not_or] at hl
      exact node?_set_of_ne hl.2 _
  | some n =>
    cases n with
    | file content => exact absurd hgoal (hfile content)
    | directory =>
      refine .inr ⟨rfl, rfl, .refl ?_⟩
      rw [List.forall_mem_append, List.forall_mem_singleton]
      exact ⟨hpassed, hgoal⟩

/-- A path with a directory missing on its way has a parent that passes less. -/
theorem makeDirectory_missing
    (hfile : ∀ l ∈ passed path, ∀ content, tree.node? l ≠ some (.file content))
    (hno : ¬ ∀ l ∈ passed path, tree.node? l = some .directory) :
    tree.makeDirectory path = .error .missing ∧ 2 ≤ (pathSteps path).length := by
  constructor
  · rw [makeDirectory, locate_eq hempty hzero, follow_eq_missing hfile hno]
  · by_contra hlength
    refine hno ?_
    rw [passed]
    match hsteps : pathSteps path with
    | [] => exact nofun
    | [step] =>
      rw [way, way, List.forall_mem_singleton]
      exact node?_of_isFixed (isFixed_startOf path)
    | _ :: _ :: _ => simp [hsteps] at hlength

end Clear

/-- **Directories are made where no file is in the way**, and nothing else. -/
theorem makeDirectoriesUpTo_opens {fuel : Nat} (hfuel : 0 < fuel)
    (hsteps : (pathSteps path).length ≤ fuel) (hzero : '\x00' ∉ path.toList)
    (hfile : ∀ l ∈ passed path ++ [goal path], ∀ content, tree.node? l ≠ some (.file content)) :
    ∃ later, tree.makeDirectoriesUpTo fuel path = (true, later) ∧
      Opens (passed path ++ [goal path]) tree later := by
  induction fuel generalizing path with
  | zero => cases hfuel
  | succ fuel ih =>
    rw [makeDirectoriesUpTo]
    by_cases hempty : path.isEmpty = true
    · have hplaces : passed path ++ [goal path] = [[]] := by
        rw [String.isEmpty_iff.mp hempty]
        decide
      refine ⟨tree, if_pos hempty, .refl ?_⟩
      rw [hplaces, List.forall_mem_singleton]
      exact node?_of_isFixed rfl
    · rw [if_neg hempty]
      rw [Bool.not_eq_true] at hempty
      rw [List.forall_mem_append, List.forall_mem_singleton] at hfile
      by_cases hpassed : ∀ l ∈ passed path, tree.node? l = some .directory
      · obtain ⟨made, hmade, hopens⟩ | ⟨hblocked, hthere, hopens⟩ :=
          makeDirectory_cases hempty hzero hpassed hfile.2
        · exact ⟨made, by rw [hmade], hopens⟩
        · exact ⟨tree, by rw [hblocked, hthere], hopens⟩
      · obtain ⟨hmissing, htwo⟩ := makeDirectory_missing hempty hzero hfile.1 hpassed
        have hne : pathSteps path ≠ [] := List.ne_nil_of_length_pos (by omega)
        obtain ⟨above, hparent⟩ := exists_parent?_of_pathSteps_ne_nil hne
        have hplaces := passed_of_parent? hparent hne
        obtain ⟨later, hlater, hopens⟩ := @ih above (by omega)
          (by rw [pathSteps_of_parent? hparent, List.length_dropLast]; omega)
          (fun hmem => hzero (mem_of_mem_parent? hparent (by decide) hmem))
          (by rw [← hplaces]; exact hfile.1)
        rw [← hplaces] at hopens
        simp only [hmissing, hparent, hlater]
        -- the second attempt, now that all directories on the way are there
        obtain ⟨made, hmade, hopens'⟩ | ⟨hblocked, hthere, hopens'⟩ :=
          makeDirectory_cases hempty hzero hopens.directory fun content =>
            hopens.ne_file (hfile.2 content)
        · exact ⟨made, by rw [hmade], hopens.append hopens'⟩
        · exact ⟨later, by rw [hblocked, hthere], hopens.append hopens'⟩

/-! ## Where a write succeeds -/

/-- **A file can be written** at a path that names a file, where no file is on the way and the file
does not take the place of a directory, one that is there or one that is made on the way. -/
structure IsWritable (tree : Tree) (path : String) : Prop where
  /-- The path names a file. -/
  name : namesDirectory path = false
  /-- It has no NUL, which no path can have. -/
  zero : '\x00' ∉ path.toList
  /-- No file is on the way. -/
  way : ∀ l ∈ passed path, ∀ content, tree.node? l ≠ some (.file content)
  /-- No directory is in its place. -/
  place : tree.node? (goal path) ≠ some .directory
  /-- None will be, when the directories on the way are made. -/
  apart : goal path ∉ passed path

/-- The directories above such a file can be made, and its place stays free. -/
theorem IsWritable.makeAbove_eq (h : IsWritable tree path) :
    ∃ later, tree.makeAbove path = (true, later) ∧ Opens (passed path) tree later := by
  have hne := pathSteps_ne_nil h.name
  obtain ⟨above, hparent⟩ := exists_parent?_of_pathSteps_ne_nil hne
  rw [makeAbove, hparent, passed_of_parent? hparent hne]
  refine makeDirectoriesUpTo_opens (Nat.succ_pos _) (length_pathSteps_le above)
    (fun hmem => h.zero (mem_of_mem_parent? hparent (by decide) hmem)) ?_
  rw [← passed_of_parent? hparent hne]
  exact h.way

theorem write_of_isWritable (h : IsWritable tree path) (content : String) :
    ∃ later, tree.write path content = (.ok (), later) := by
  obtain ⟨later, hmade, hopens⟩ := h.makeAbove_eq
  have hempty : path.isEmpty = false := isEmpty_of_pathSteps_ne_nil (pathSteps_ne_nil h.name)
  have hlocate : later.locate path = .ok (goal path) :=
    locate_eq_ok_iff.mpr ⟨⟨hempty, h.zero⟩, hopens.directory, rfl⟩
  have hplace : later.node? (goal path) ≠ some .directory := by
    rw [hopens.elsewhere _ h.apart]
    exact h.place
  refine ⟨later.set (goal path) (.file content), write_eq_ok_iff_put?.mpr ?_⟩
  rw [hmade]
  exact ⟨rfl, put?_eq_some_iff.mpr ⟨h.name, _, hlocate, hplace, rfl⟩⟩

theorem isWritable_of_write {content : String} (h : tree.write path content = (.ok (), later)) :
    IsWritable tree path := by
  have hgrows := grows_makeAbove tree path
  obtain ⟨-, hput⟩ := write_eq_ok_iff_put?.mp h
  obtain ⟨hname, l, hlocate, hdirectory, -⟩ := put?_eq_some_iff.mp hput
  obtain ⟨⟨-, hzero⟩, hpassed, rfl⟩ := locate_eq_ok_iff.mp hlocate
  exact {
    name := hname
    zero := hzero
    way := fun l hl content hfile => by
      have hkept := hgrows.kept l _ trivial hfile
      rw [hpassed l hl] at hkept
      cases hkept
    place := fun hgoal => hdirectory (hgrows.kept _ _ trivial hgoal)
    apart := fun hmem => hdirectory (hpassed _ hmem) }

/-- **When a write succeeds**: exactly where the file can be written, whatever it is to hold. -/
theorem write_eq_ok_iff (content : String) :
    (∃ later, tree.write path content = (.ok (), later)) ↔ IsWritable tree path :=
  ⟨fun ⟨_, h⟩ => isWritable_of_write h, fun h => write_of_isWritable h content⟩

/-- The directory that `a/../a` passes is made first, and then the file has no place. -/
example :
    write {} "a/../a" "var a;" = (.error (.file "a/../a"), { nodes := [(["a"], .directory)] }) := by
  rfl

end Tree
end Files
end RestBindings
