import Mathlib.Data.List.DropRight
import RestBindings.Registry.Error

/-! # Where an error of a text points

A reader tells how many bytes it has read, and an error is told by line and column.  Both are counted
on the bytes of the text: a line feed is a byte of its own, and no other character has that byte in
it (`lineFeed_not_mem_utf8`), so a character that is read in part counts with the bytes read of it
(`after_eq_placeAfter`).

Back from a place, the bytes of the lines before it and those of its own line add up to what was read
(`lineStart_add_columnOf`).  The offset is that of the last of them.  Where that is a line feed, the
place is at the start of the next line, with no byte of it read, and so is the offset.
-/
namespace RestBindings
namespace Json

/-! ## The bytes of a text -/

/-- The bytes of a text. -/
def bytesOf (s : String) : List UInt8 := s.toUTF8.data.toList

/-- The line feed as a byte. -/
def lineFeed : UInt8 := 0x0A

theorem bytesOf_eq (s : String) : bytesOf s = s.toList.flatMap String.utf8EncodeChar := by
  rw [bytesOf, String.toUTF8_eq_toByteArray, ← String.utf8Encode_toList]
  exact List.toList_data_toByteArray

theorem length_flatMap_utf8 (cs : List Char) :
    (cs.flatMap String.utf8EncodeChar).length = byteCount cs := by
  induction cs with
  | nil => rfl
  | cons c rest ih =>
    rw [List.flatMap_cons, List.length_append, String.length_utf8EncodeChar, ih, byteCount_cons]

theorem length_bytesOf (s : String) : (bytesOf s).length = byteCount s.toList := by
  rw [bytesOf_eq, length_flatMap_utf8]

theorem utf8_lineFeed : String.utf8EncodeChar '\n' = [lineFeed] := by decide

theorem lineFeed_ne_ofNat {n : Nat} (h : n % 0x100 ≠ 10) : lineFeed ≠ UInt8.ofNat n := by
  intro heq
  have hnat := congrArg UInt8.toNat heq
  rw [UInt8.toNat_ofNat'] at hnat
  exact h hnat.symm

/-- The byte of the line feed is in no other character: the bytes of a character that has several are
all above ASCII. -/
theorem lineFeed_not_mem_utf8 {c : Char} (h : c ≠ '\n') : lineFeed ∉ String.utf8EncodeChar c := by
  have hval : c.val.toNat ≠ 10 := fun hval => h (Char.ext (UInt32.toNat_inj.mp hval))
  simp only [String.utf8EncodeChar]
  -- by the number of bytes
  split
  next hascii =>
    rw [List.mem_singleton]
    exact lineFeed_ne_ofNat (by omega)
  split
  · simp only [List.mem_cons, List.not_mem_nil, or_false, not_or]
    exact ⟨lineFeed_ne_ofNat (by omega), lineFeed_ne_ofNat (by omega)⟩
  split
  · simp only [List.mem_cons, List.not_mem_nil, or_false, not_or]
    exact ⟨lineFeed_ne_ofNat (by omega), lineFeed_ne_ofNat (by omega),
      lineFeed_ne_ofNat (by omega)⟩
  · simp only [List.mem_cons, List.not_mem_nil, or_false, not_or]
    exact ⟨lineFeed_ne_ofNat (by omega), lineFeed_ne_ofNat (by omega),
      lineFeed_ne_ofNat (by omega), lineFeed_ne_ofNat (by omega)⟩

theorem count_lineFeed_of_ne {b : UInt8} (h : b ≠ lineFeed) : [b].count lineFeed = 0 :=
  List.count_eq_zero.mpr fun hb => h (List.mem_singleton.mp hb).symm

/-! ## The place after bytes -/

/-- The number of bytes read of the line that was read last. -/
def columnOf (read : List UInt8) : Nat := (read.rtakeWhile (· != lineFeed)).length

/-- The place after the bytes that were read: their line feeds are counted, and the bytes after the
last of them. -/
def placeAfter (read : List UInt8) : Place := ⟨1 + read.count lineFeed, columnOf read⟩

theorem columnOf_concat_lineFeed (read : List UInt8) : columnOf (read ++ [lineFeed]) = 0 := by
  rw [columnOf, List.rtakeWhile_concat_neg _ _ _ (by simp), List.length_nil]

theorem columnOf_concat {b : UInt8} (h : b ≠ lineFeed) (read : List UInt8) :
    columnOf (read ++ [b]) = columnOf read + 1 := by
  rw [columnOf, List.rtakeWhile_concat_pos _ _ _ (by simpa using h), List.length_append,
    List.length_singleton, columnOf]

/-- Bytes without a line feed are read of the same line. -/
theorem placeAfter_append {bytes : List UInt8} (h : lineFeed ∉ bytes) (read : List UInt8) :
    placeAfter (read ++ bytes) =
      ⟨(placeAfter read).line, (placeAfter read).column + bytes.length⟩ := by
  induction bytes using List.reverseRecOn with
  | nil => rw [List.append_nil, List.length_nil, Nat.add_zero]
  | append_singleton bytes b ih =>
    rw [List.mem_append, List.mem_singleton, not_or] at h
    have hb : b ≠ lineFeed := Ne.symm h.2
    rw [← List.append_assoc, placeAfter, columnOf_concat hb, List.count_append,
      count_lineFeed_of_ne hb]
    have hih := ih h.1
    rw [placeAfter, Place.mk.injEq] at hih
    rw [Nat.add_zero, hih.1, hih.2, List.length_append, List.length_singleton, Nat.add_assoc]

theorem placeAfter_concat_lineFeed (read : List UInt8) :
    placeAfter (read ++ [lineFeed]) = ⟨(placeAfter read).line + 1, 0⟩ := by
  rw [placeAfter, columnOf_concat_lineFeed, List.count_append, List.count_singleton_self,
    ← Nat.add_assoc]
  rfl

/-- A reader that goes on from a place comes to the place after all bytes. -/
theorem advance_placeAfter (read : List UInt8) (n : Nat) (cs : List Char) :
    Place.advance (placeAfter read) n cs =
      placeAfter (read ++ (cs.flatMap String.utf8EncodeChar).take n) := by
  induction cs generalizing read n with
  | nil => rw [Place.advance, List.flatMap_nil, List.take_nil, List.append_nil]
  | cons c rest ih =>
    cases n with
    | zero => rw [Place.advance, List.take_zero, List.append_nil]
    | succ n =>
      rw [Place.advance, List.flatMap_cons]
      split
      next hc =>
        rw [hc, utf8_lineFeed, ← placeAfter_concat_lineFeed, ih, List.singleton_append,
          List.take_succ_cons, List.append_assoc, List.singleton_append]
      next hc =>
        have hfree : lineFeed ∉ (String.utf8EncodeChar c).take (n + 1) :=
          fun h => lineFeed_not_mem_utf8 hc (List.mem_of_mem_take h)
        have hstep := placeAfter_append hfree read
        rw [List.length_take, String.length_utf8EncodeChar] at hstep
        rw [← hstep, ih, List.take_append, String.length_utf8EncodeChar, List.append_assoc]

/-- **The place after the first bytes of a text**, counted on its bytes. -/
theorem after_eq_placeAfter (s : String) (n : Nat) :
    Place.after n s.toList = placeAfter ((bytesOf s).take n) := by
  rw [bytesOf_eq, Place.after]
  exact advance_placeAfter [] n s.toList

/-! ## From a place back to an offset -/

/-- The number of the first bytes that are those of the first `n` lines. -/
def lineStart : (n : Nat) → List UInt8 → Nat
  | 0, _ => 0
  | _, [] => 0
  | n + 1, b :: rest => 1 + lineStart (if b = lineFeed then n else n + 1) rest

/-- Bytes without a line feed belong to the first line. -/
theorem lineStart_append {bytes : List UInt8} (h : lineFeed ∉ bytes) (n : Nat)
    (rest : List UInt8) :
    lineStart (n + 1) (bytes ++ rest) = bytes.length + lineStart (n + 1) rest := by
  induction bytes with
  | nil => rw [List.nil_append, List.length_nil, Nat.zero_add]
  | cons b bytes ih =>
    rw [List.mem_cons, not_or] at h
    rw [List.cons_append, lineStart, if_neg (Ne.symm h.1), ih h.2, List.length_cons]
    omega

/-- Lines that are counted on the characters are counted on the bytes. -/
theorem bytesOfLines_eq_lineStart (n : Nat) (cs : List Char) :
    Place.bytesOfLines n cs = lineStart n (cs.flatMap String.utf8EncodeChar) := by
  induction cs generalizing n with
  | nil => cases n <;> rfl
  | cons c rest ih =>
    cases n with
    | zero => rw [Place.bytesOfLines, lineStart]
    | succ n =>
      rw [Place.bytesOfLines, List.flatMap_cons]
      split
      next hc =>
        rw [hc, utf8_lineFeed, List.singleton_append, lineStart, if_pos rfl, ih]
      next hc =>
        rw [lineStart_append (lineFeed_not_mem_utf8 hc), String.length_utf8EncodeChar, ih]

/-- Where the last byte read is a line feed, the lines so far are all that was read. -/
theorem lineStart_concat_lineFeed (read rest : List UInt8) :
    lineStart (read.count lineFeed + 1) (read ++ lineFeed :: rest) = read.length + 1 := by
  induction read with
  | nil =>
    rw [List.count_nil, List.nil_append, lineStart, if_pos rfl, lineStart, List.length_nil]
  | cons b read ih =>
    rw [List.cons_append, lineStart, List.length_cons]
    by_cases hb : b = lineFeed
    · rw [if_pos hb, hb, List.count_cons_self, ih]
      omega
    · rw [if_neg hb, List.count_cons_of_ne hb, ih]
      omega

/-- The bytes of the lines before a place and those of its own line are what was read. -/
theorem lineStart_add_columnOf (read rest : List UInt8) :
    lineStart (read.count lineFeed) (read ++ rest) + columnOf read = read.length := by
  induction read using List.reverseRecOn generalizing rest with
  | nil => rw [List.count_nil, lineStart, columnOf, List.rtakeWhile_nil, List.length_nil]
  | append_singleton read b ih =>
    rw [List.count_append, List.append_assoc, List.singleton_append, List.length_append,
      List.length_singleton]
    by_cases hb : b = lineFeed
    · subst hb
      rw [columnOf_concat_lineFeed, List.count_singleton_self, lineStart_concat_lineFeed,
        Nat.add_zero]
    · rw [columnOf_concat hb, count_lineFeed_of_ne hb, Nat.add_zero, ← Nat.add_assoc, ih]

/-- The offset of the place after `read`, in a text that goes on with `rest`: at the start of a line
nothing of it is read, and elsewhere the last byte read is in the line. -/
theorem offset?_placeAfter {s : String} {read rest : List UInt8} (h : bytesOf s = read ++ rest) :
    (placeAfter read).offset? s.toList =
      some (if columnOf read = 0 then read.length else read.length - 1) := by
  have hsum := lineStart_add_columnOf read rest
  have hsize : byteCount s.toList = read.length + rest.length := by
    rw [← length_bytesOf, h, List.length_append]
  have hlines : Place.bytesOfLines ((placeAfter read).line - 1) s.toList =
      lineStart (read.count lineFeed) (read ++ rest) := by
    rw [bytesOfLines_eq_lineStart, ← bytesOf_eq, h, placeAfter, Nat.add_sub_cancel_left]
  have hline : (placeAfter read).line ≠ 0 := by
    show 1 + read.count lineFeed ≠ 0
    omega
  rw [Place.offset?, if_neg hline, hlines, hsize]
  show some (min (_ + (columnOf read - 1)) _) = _
  split
  all_goals
    congr 1
    omega

/-- A place that has a line has an offset, and it is one of the text. -/
theorem offset?_le {place : Place} (h : 1 ≤ place.line) (s : String) :
    ∃ offset, place.offset? s.toList = some offset ∧ offset ≤ (bytesOf s).length := by
  have hline : place.line ≠ 0 := by omega
  refine ⟨_, if_neg hline, ?_⟩
  rw [length_bytesOf]
  exact Nat.min_le_right _ _

/-- The offset of the last of the first `n` bytes, or the one after it if that byte ends a line. -/
def stopOffset (bytes : List UInt8) (n : Nat) : Nat :=
  if bytes[n - 1]? = some lineFeed then n else n - 1

/-- The offset of the place after the first `n` bytes. -/
theorem offset?_placeAfter_take {s : String} {n : Nat} (hpos : 1 ≤ n)
    (hle : n ≤ (bytesOf s).length) :
    (placeAfter ((bytesOf s).take n)).offset? s.toList = some (stopOffset (bytesOf s) n) := by
  obtain ⟨m, rfl⟩ : ∃ m, n = m + 1 := ⟨n - 1, by omega⟩
  have hlast : (bytesOf s)[m]? = some (bytesOf s)[m] := List.getElem?_eq_getElem hle
  have hlength : ((bytesOf s).take (m + 1)).length = m + 1 := List.length_take_of_le hle
  rw [offset?_placeAfter (List.take_append_drop (m + 1) (bytesOf s)).symm, hlength, stopOffset,
    Nat.add_sub_cancel, hlast, List.take_succ_eq_append_getElem hle]
  by_cases hb : (bytesOf s)[m] = lineFeed
  · rw [hb, columnOf_concat_lineFeed, if_pos rfl, if_pos rfl]
  · rw [columnOf_concat hb, if_neg (Nat.succ_ne_zero _), if_neg fun h => hb (Option.some.inj h)]

end Json

/-! ## What errors point at -/

open Json

/-- The errors of a text point where reading stopped. -/
structure SourceText.PointsAtStops (s : SourceText) : Prop where
  /-- The line and the column of a stop are counted on the bytes that were read. -/
  place_of_stop : ∀ n, Place.after n s.content.toList = placeAfter ((bytesOf s.content).take n)
  /-- After the first `n` bytes of the text, the offset is that of the last of them, or of the next
  line if that byte ends a line. -/
  offset_of_stop : ∀ n, 1 ≤ n → n ≤ (bytesOf s.content).length →
    (placeAfter ((bytesOf s.content).take n)).offset? s.content.toList =
      some (stopOffset (bytesOf s.content) n)
  /-- Any line and any column, also of a place that the text does not have, have an offset in the
  text. -/
  offset_in_text : ∀ place : Place, 1 ≤ place.line →
    ∃ offset, place.offset? s.content.toList = some offset ∧ offset ≤ (bytesOf s.content).length
  /-- The error for a misspelling that is met after `n` bytes is at that offset, and no byte long. -/
  span_of_stop : ∀ cause n, 1 ≤ n → n ≤ (bytesOf s.content).length →
    s.refusal ((Fault.misspelled cause ((bytesOf s.content).length - n)).refusal
        s.content.toList) =
      .refused s.file (some ⟨stopOffset (bytesOf s.content) n, 0⟩)
        (.misspelled cause (placeAfter ((bytesOf s.content).take n)))

/-- **An error of a text points where reading stopped**: at the last byte that was read, or at the
start of the next line if that byte is a line feed, and never past the end of the text. -/
theorem SourceText.points_at_stops (s : SourceText) : s.PointsAtStops where
  place_of_stop := after_eq_placeAfter s.content
  offset_of_stop _ := offset?_placeAfter_take
  offset_in_text _ hline := offset?_le hline s.content
  span_of_stop cause n hpos hle := by
    have hread : byteCount s.content.toList - ((bytesOf s.content).length - n) = n := by
      rw [length_bytesOf] at hle ⊢
      omega
    rw [Fault.refusal, hread, after_eq_placeAfter]
    show RegistryError.refused s.file (Option.map _ _) _ = _
    rw [offset?_placeAfter_take hpos hle, Option.map_some]

/-- In a text of two lines, a reader that stops after the first line is at the start of the second
one, and one that stops in a character is at its last byte that was read. -/
theorem two_lines_stops :
    (placeAfter ((bytesOf "[\né").take 2)).offset? "[\né".toList = some 2 ∧
      (placeAfter ((bytesOf "[\né").take 3)).offset? "[\né".toList = some 2 ∧
      (placeAfter ((bytesOf "[\né").take 4)).offset? "[\né".toList = some 3 := by
  have hbytes : bytesOf "[\né" = [0x5B, lineFeed, 0xC3, 0xA9] := by decide +kernel
  have hstops := (SourceText.points_at_stops ⟨"[\né", "registry.json"⟩).offset_of_stop
  rw [hbytes] at hstops ⊢
  exact ⟨hstops 2 (by decide) (by decide), hstops 3 (by decide) (by decide),
    hstops 4 (by decide) (by decide)⟩

end RestBindings
