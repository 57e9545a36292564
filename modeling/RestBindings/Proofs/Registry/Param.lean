import RestBindings.Proofs.Json.Reading
import RestBindings.Registry.Param

/-! # Parameters are read back from their written form

What the written form of a parameter leaves out is what the reader supplies: no description, no
source, and no whole body.  So a parameter is read back as it was from either of the two texts of its
written form, whatever its texts hold (`reads_back`), and reading a text and writing the result is
something that can be repeated.
-/
namespace RestBindings
namespace Param

open Json (Layout Record Spaces Value)
open Json.Reader (Folds Reads)

variable {layout : Layout} {depth : Nat}

/-- The part of a request is read back. -/
theorem reads_source (s : Source) {blanks : List Char} (hblanks : Spaces blanks) :
    Reads sourceRecord.read
      (blanks ++ layout.chars depth (.object [("source", .text s.name)])) s := by
  have hknown : (Source.all.map fun s => (s.name, s)).lookup s.name = some s := by
    cases s <;> decide
  have hword : Reads (Json.Reader.wordOf (Source.all.map fun s => (s.name, s)))
      (layout.afterColon ++ layout.chars (depth + 1) (.text s.name)) s := by
    rw [Layout.chars]
    exact Json.Reader.reads_wordOf layout.spaces_afterColon hknown
  have hmember : Reads (sourceRecord.storeMember (sourceRecord.blank, []) "source")
      (layout.afterName (depth + 1) (.text s.name)) (s, ["source"]) :=
    Record.reads_storeMember rfl List.not_mem_nil hword
  exact Record.reads_read (.cons hmember (.nil _)) rfl hblanks

/-- The members that every written form has are stored. -/
theorem folds_fixed (p : Param) :
    Folds layout depth record.storeMember (record.blank, [])
      [("arg", .text p.arg), ("type", .text p.type), ("required", .bool p.required)]
      ({ arg := p.arg, type := p.type, required := p.required }, ["required", "type", "arg"]) := by
  have htext (s : String) :
      Reads Json.Reader.text (layout.afterColon ++ layout.chars depth (.text s)) s := by
    rw [Layout.chars]
    exact Json.Reader.reads_text layout.spaces_afterColon s
  have hbool : Reads Json.Reader.bool (layout.afterColon ++ layout.chars depth (.bool p.required))
      p.required := by
    cases p.required with
    | true => exact Json.Reader.reads_true layout.spaces_afterColon
    | false => exact Json.Reader.reads_false layout.spaces_afterColon
  have harg := (htext p.arg).bind_pure fun arg => { record.blank with arg }
  have htype := (htext p.type).bind_pure fun type => { arg := p.arg, type : Param }
  have hrequired := hbool.bind_pure fun required => { arg := p.arg, type := p.type, required : Param }
  refine .cons (Record.reads_storeMember rfl (by simp) harg) ?_
  refine .cons (Record.reads_storeMember rfl (by simp) htype) ?_
  exact .cons (Record.reads_storeMember rfl (by simp) hrequired) (.nil _)

section Optional

variable {q : Param} {seen : List String}

theorem folds_description (hq : q.description = none) (hnew : "description" ∉ seen)
    (description : Option String) :
    Folds layout depth record.storeMember (q, seen)
      (description.toList.map fun d => ("description", .text d))
      ({ q with description },
        (description.toList.map fun d => ("description", Value.text d)).map Prod.fst ++ seen) := by
  refine Record.folds_field rfl hnew ?_
  cases description with
  | none => exact .inl ⟨rfl, by rw [← hq]⟩
  | some d =>
    have htext : Reads Json.Reader.text (Text.quoteChars d.toList) d :=
      Json.Reader.reads_text Json.spaces_nil d
    have hsome := Json.Reader.reads_optional layout.spaces_afterColon (.inl rfl) htext
    refine .inr ⟨_, rfl, ?_⟩
    rw [Layout.chars]
    exact hsome.bind_pure fun description => { q with description }

theorem folds_source (hq : q.source = none) (hnew : "http" ∉ seen) (source : Option Source) :
    Folds layout depth record.storeMember (q, seen)
      (source.toList.map fun s => ("http", .object [("source", .text s.name)]))
      ({ q with source }, (source.toList.map fun s =>
        ("http", Value.object [("source", .text s.name)])).map Prod.fst ++ seen) := by
  refine Record.folds_field rfl hnew ?_
  cases source with
  | none => exact .inl ⟨rfl, by rw [← hq]⟩
  | some s =>
    have hsource : Reads sourceRecord.read
        (layout.chars depth (.object [("source", .text s.name)])) s :=
      reads_source s Json.spaces_nil
    rw [layout.chars_object] at hsource
    have hsome := Json.Reader.reads_optional layout.spaces_afterColon (.inr rfl) hsource
    refine .inr ⟨_, rfl, ?_⟩
    rw [layout.chars_object]
    exact hsome.bind_pure fun source => { q with source }

theorem folds_root (hq : q.root = false) (hnew : "root" ∉ seen) (root : Bool) :
    Folds layout depth record.storeMember (q, seen) (if root then [("root", .bool true)] else [])
      ({ q with root },
        (if root then [("root", Value.bool true)] else []).map Prod.fst ++ seen) := by
  refine Record.folds_field rfl hnew ?_
  cases root with
  | false => exact .inl ⟨rfl, by rw [← hq]⟩
  | true =>
    have htrue := Json.Reader.reads_true layout.spaces_afterColon
    exact .inr ⟨_, rfl, htrue.bind_pure fun root => { q with root }⟩

end Optional

/-- **A written parameter is read back**, in any layout. -/
theorem reads_toJson (layout : Layout) (depth : Nat) (p : Param) :
    Reads record.read (layout.chars depth p.toJson) p := by
  have hfixed : Folds layout (depth + 1) record.storeMember (record.blank, []) _ (_, _) :=
    folds_fixed p
  have hdescription := hfixed.append (folds_description rfl (by simp) p.description)
  have hsource := hdescription.append (folds_source rfl (by cases p.description <;> simp) p.source)
  have hroot := hsource.append
    (folds_root rfl (by cases p.description <;> cases p.source <;> simp) p.root)
  refine Record.reads_read hroot (Record.missing?_eq_none ?_) Json.spaces_nil
  -- only the name may not be left out, and it is always written
  simp [record]

/-- **A parameter is read back from its written form**, compact or pretty; so a text that holds a
parameter can be read and written any number of times. -/
theorem reads_back :
    (∀ p : Param, ofJson p.toJson.compact = .ok p ∧ ofJson p.toJson.pretty = .ok p) ∧
    ∀ (source : String) (p : Param), ofJson source = .ok p →
      ofJson p.toJson.compact = .ok p ∧ ofJson p.toJson.pretty = .ok p := by
  have hback (p : Param) : ofJson p.toJson.compact = .ok p ∧ ofJson p.toJson.pretty = .ok p := by
    constructor
    · refine Json.Reader.run_of_reads ?_
      rw [Layout.toList_compact 0]
      exact reads_toJson Layout.compact 0 p
    · refine Json.Reader.run_of_reads ?_
      rw [Layout.toList_pretty]
      exact reads_toJson Layout.pretty 0 p
  exact ⟨hback, fun _ p _ => hback p⟩

end Param
end RestBindings
