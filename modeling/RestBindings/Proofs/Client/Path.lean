import RestBindings.Client.Path
import RestBindings.Proofs.Text.Occurrence
import RestBindings.Proofs.Text.Split

/-! # Segments of paths

Joining cuts pieces of a path into segments and writes a slash before each of them.  A segment has a
character and no slash, so a path that is cut again gives the segments it was joined from, in order
(`segments_joinPath`).  The path of a method has those of its class, then for a prototype method those
of the constructor's placeholders, then those of its route (`segments_actionPath`).

A joined path is determined by the segments of its pieces and has a form of its own
(`isNormal_joinPath`): joining it again changes nothing, and pieces can be joined in groups first
(`joinPath_append`).
-/
namespace RestBindings
namespace Client

/-- A segment has a character and no slash. -/
theorem of_mem_segments {piece : String} {s : List Char} (h : s ∈ segments piece) :
    s ≠ [] ∧ ∀ c ∈ s, (c == '/') = false := by
  obtain ⟨hs, hne⟩ := List.mem_filter.mp h
  refine ⟨by simpa using hne, fun c hc => ?_⟩
  have hsep := Text.not_sep_of_mem_splitOn hs hc
  exact hsep

/-- A path is cut into its segments, after nothing before the first slash. -/
theorem splitOn_pathChars {s : List Char} {rest : List (List Char)}
    (h : ∀ t ∈ s :: rest, ∀ c ∈ t, (c == '/') = false) :
    Text.splitOn (· == '/') (pathChars (s :: rest)) = [] :: s :: rest := by
  have hslash {cs piece : List Char} {pieces : List (List Char)}
      (hcs : Text.splitOn (· == '/') cs = piece :: pieces) :
      Text.splitOn (· == '/') ('/' :: cs) = [] :: piece :: pieces := by
    simp [Text.splitOn, hcs]
  induction rest generalizing s with
  | nil =>
    rw [pathChars, hslash (Text.splitOn_of_forall_not_sep (h s List.mem_cons_self))]
  | cons t rest ih =>
    rw [List.forall_mem_cons] at h
    rw [pathChars, List.cons_append, hslash (Text.splitOn_append h.1 (ih h.2)), List.append_nil]

/-- **A joined path has the segments of its pieces**, in order. -/
theorem segments_joinPath (pieces : List String) :
    segments (joinPath pieces) = pieces.flatMap segments := by
  have hsegments : ∀ s ∈ pieces.flatMap segments, s ≠ [] ∧ ∀ c ∈ s, (c == '/') = false := by
    intro s hs
    obtain ⟨piece, -, hs⟩ := List.mem_flatMap.mp hs
    exact of_mem_segments hs
  rw [joinPath, segments, String.toList_ofList]
  generalize pieces.flatMap segments = all at hsegments
  cases all with
  | nil => rfl
  | cons s rest =>
    rw [splitOn_pathChars fun t ht => (hsegments t ht).2, List.filter_cons_of_neg (by simp)]
    exact List.filter_eq_self.mpr fun t ht => by simpa using (hsegments t ht).1

/-! ## The form of a joined path -/

/-- The characters of a path in normal form. -/
structure IsNormal (path : List Char) : Prop where
  /-- It starts with a slash. -/
  starts : path.head? = some '/'
  /-- No slash comes right after another. -/
  single : ¬ ['/', '/'] <:+: path
  /-- Only the root ends with a slash. -/
  ends : path.getLast? = some '/' → path = ['/']

theorem head?_pathChars (segments : List (List Char)) : (pathChars segments).head? = some '/' := by
  cases segments with
  | nil => rfl
  | cons s rest => cases rest <;> rfl

/-- Two slashes in a row after a segment are two slashes in a row in what follows it. -/
theorem infix_slash_segment_iff {s tail : List Char} (hne : s ≠ [])
    (h : ∀ c ∈ s, (c == '/') = false) :
    ['/', '/'] <:+: '/' :: s ++ tail ↔ ['/', '/'] <:+: tail := by
  have hmark {c : Char} (hc : (c == '/') = false) : c ∉ ['/', '/'] := by
    simpa using hc
  cases s with
  | nil => exact absurd rfl hne
  | cons c s =>
    rw [List.forall_mem_cons] at h
    have hslash : ¬ ['/', '/'] <:+: ['/'] := by decide
    have hfirst : ['/', '/'] <:+: ['/'] ++ c :: (s ++ tail) ↔
        ['/', '/'] <:+: ['/'] ∨ ['/', '/'] <:+: s ++ tail :=
      Text.infix_append_cons_iff (hmark h.1)
    have hpad : ∀ d ∈ s, d ∉ ['/', '/'] := fun d hd => hmark (h.2 d hd)
    rw [or_iff_right hslash, Text.infix_append_left_iff (List.cons_ne_nil _ _) hpad] at hfirst
    exact hfirst

/-- **Segments that have a character and no slash make a path in normal form.** -/
theorem isNormal_pathChars {segments : List (List Char)}
    (h : ∀ s ∈ segments, s ≠ [] ∧ ∀ c ∈ s, (c == '/') = false) : IsNormal (pathChars segments) := by
  have hsegments : ¬ ['/', '/'] <:+: pathChars segments ∧
      ((pathChars segments).getLast? = some '/' → segments = []) := by
    -- by the recursion of `pathChars`: no segments, the last one, and one before others
    induction segments using pathChars.induct with
    | case1 => exact ⟨by decide, fun _ => rfl⟩
    | case2 s =>
      obtain ⟨hne, hs⟩ := h s List.mem_cons_self
      constructor
      · rw [pathChars, ← List.append_nil ('/' :: s), infix_slash_segment_iff hne hs]
        decide
      · intro hlast
        rw [pathChars, List.getLast?_cons_of_ne_nil hne] at hlast
        have hmem := hs '/' (List.mem_of_getLast? hlast)
        exact absurd hmem (by decide)
    | case3 s t rest ih =>
      rw [List.forall_mem_cons] at h
      obtain ⟨hsingle, hends⟩ := ih h.2
      constructor
      · rwa [pathChars, infix_slash_segment_iff h.1.1 h.1.2]
      · intro hlast
        have htail : pathChars (t :: rest) ≠ [] := fun hnil => by
          simpa [hnil] using head?_pathChars (t :: rest)
        rw [pathChars, List.getLast?_append_of_ne_nil _ htail] at hlast
        exact absurd (hends hlast) (List.cons_ne_nil t rest)
  refine ⟨head?_pathChars segments, hsegments.1, fun hlast => ?_⟩
  rw [hsegments.2 hlast]
  rfl

/-- **A joined path is in normal form**, whatever the pieces are. -/
theorem isNormal_joinPath (pieces : List String) : IsNormal (joinPath pieces).toList := by
  rw [joinPath, String.toList_ofList]
  refine isNormal_pathChars fun s hs => ?_
  obtain ⟨piece, -, hs⟩ := List.mem_flatMap.mp hs
  exact of_mem_segments hs

/-- A path in normal form has one slash at its start. -/
theorem IsNormal.takeWhile_slash {path : List Char} (h : IsNormal path) :
    path.takeWhile (· == '/') = ['/'] := by
  obtain ⟨rest, rfl⟩ := List.head?_eq_some_iff.mp h.starts
  cases rest with
  | nil => rfl
  | cons c rest =>
    have hc : c ≠ '/' := by
      rintro rfl
      exact h.single ⟨[], rest, rfl⟩
    simp [hc]

/-! ## Joining in groups -/

/-- Only the segments of the pieces count. -/
theorem joinPath_congr {pieces pieces' : List String}
    (h : pieces.flatMap segments = pieces'.flatMap segments) : joinPath pieces = joinPath pieces' :=
  congrArg (fun all => String.ofList (pathChars all)) h

theorem joinPath_joinPath (pieces : List String) : joinPath [joinPath pieces] = joinPath pieces := by
  apply joinPath_congr
  rw [List.flatMap_singleton, segments_joinPath]

/-- **Pieces can be joined in two groups first.** -/
theorem joinPath_append (first rest : List String) :
    joinPath (first ++ rest) = joinPath [joinPath first, joinPath rest] := by
  apply joinPath_congr
  rw [List.flatMap_append, List.flatMap_cons, List.flatMap_singleton, segments_joinPath,
    segments_joinPath]

/-! ## The path of a method -/

/-- The path of a prototype method goes on from that of the instance. -/
theorem actionPath_eq_joinPath (m : Model) (method : Method) (route : Route) :
    actionPath m method route =
      joinPath [if method.isStatic then m.httpPath else resourcePath m, route.path] := by
  apply joinPath_congr
  cases method.isStatic with
  | true => rfl
  | false =>
    rw [List.flatMap_append, List.flatMap_cons, List.flatMap_cons, List.flatMap_cons]
    simp [resourcePath, segments_joinPath]

/-- A placeholder is one segment, if its name has no slash. -/
theorem segments_placeholder {arg : String} (h : '/' ∉ arg.toList) :
    segments (":" ++ arg) = [':' :: arg.toList] := by
  have hslash : ∀ c ∈ ':' :: arg.toList, (c == '/') = false := by
    rw [List.forall_mem_cons]
    exact ⟨by decide, Text.beq_eq_false_of_not_mem h⟩
  have htext : (":" ++ arg).toList = ':' :: arg.toList := by simp
  rw [segments, htext, Text.splitOn_of_forall_not_sep hslash]
  rfl

/-- The segments that the constructor of a model contributes to the path of a method. -/
def ctorSegments (m : Model) (method : Method) : List (List Char) :=
  if method.isStatic then [] else (placeholders m).flatMap segments

/-- **The segments of the path of a method**: those of the class, of the constructor and of the
route. -/
theorem segments_actionPath (m : Model) (method : Method) (route : Route) :
    segments (actionPath m method route) =
      segments m.httpPath ++ ctorSegments m method ++ segments route.path := by
  rw [actionPath, segments_joinPath, ctorSegments]
  cases method.isStatic <;> simp

/-- Where the names of a constructor have no slash, it contributes the placeholder of each of its
parameters for the path. -/
theorem mem_ctorSegments_iff {m : Model} {method : Method}
    (hslash : ∀ q ∈ pathParams m, '/' ∉ q.arg.toList) {arg : String} :
    ':' :: arg.toList ∈ ctorSegments m method ↔
      method.isStatic = false ∧ arg ∈ (pathParams m).map Param.arg := by
  have hsegments : (placeholders m).flatMap segments =
      (pathParams m).map fun q => ':' :: q.arg.toList := by
    rw [placeholders, List.flatMap_map, List.map_eq_flatMap]
    exact List.flatMap_congr fun q hq => segments_placeholder (hslash q hq)
  rw [ctorSegments, hsegments]
  cases method.isStatic <;> simp [String.toList_inj]

end Client
end RestBindings
