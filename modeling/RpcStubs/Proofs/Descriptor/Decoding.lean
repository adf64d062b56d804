import RpcStubs.Descriptor.Error
import RpcStubs.Proofs.Descriptor.Schema
import RpcStubs.Proofs.Json.Compact
import RpcStubs.Proofs.Json.Parse

/-!
# Decoding descriptor sets

However the text of a tree is laid out, loading it succeeds exactly if the tree is one of the schema,
and gives the set that the tree describes (`DescriptorSet.load_eq_ok_iff_describedBy`). The compact
text of a set is one such text, so that loading it gives the set back and no two sets share a text
(`DescriptorSet.load_text_and_text_injective`).
-/

namespace RpcStubs

open Json

namespace DescriptorSet

theorem distinct_shape : shape.Distinct := by
  simp [Shape.Distinct, Json.Fields.Distinct, Json.Fields.keys]

theorem load_eq_ok_iff {path : Option String} {text : String} {set : DescriptorSet} :
    load path text = .ok set ↔ ∃ value, shape.parse text = .ok value ∧ ofValue value = set := by
  cases parsed : shape.parse text <;> simp [load, parse, parsed, Except.map, Except.mapError]

/-- A text that writes a tree is loaded as a set if and only if the tree describes that set. -/
theorem load_eq_ok_iff_describedBy {tree : Tree} {text : String} (written : tree.WrittenIn text)
    (path : Option String) (set : DescriptorSet) :
    load path text = .ok set ↔ DescribedBy tree set := by
  simp only [load_eq_ok_iff, shape.parse_eq_ok_iff distinct_shape written, fits_iff_describedBy]
  constructor
  case mp =>
    rintro ⟨value, described, rfl⟩
    exact described
  case mpr =>
    intro described
    refine ⟨set.toValue, ?_, ofValue_toValue set⟩
    rwa [ofValue_toValue]

/-- A set is read off a tree with an unknown entry, a record that is a list and no entry for the
files, from a text that has blanks between its tokens and an escape in a key. -/
theorem load_eq_ok_iff_describedBy_of_mixed_forms :
    (Tree.object [("note", .list [.null]), ("types", .list [.list [.text "R", .text "T"]])]).WrittenIn
        "\x7b \"note\":[null],\n\"\\u0074ypes\":[[\"R\" ,\"T\"]]\x7d"
      ∧ load none "\x7b \"note\":[null],\n\"\\u0074ypes\":[[\"R\" ,\"T\"]]\x7d"
        = .ok ⟨[], [⟨"R", "T", "", ""⟩]⟩ := by
  have blank : Space [' '] := by simp [Space]
  have newline : Space ['\n'] := by simp [Space]
  have escaped : CharWritten 't' ['\\', 'u', '0', '0', '7', '4'] :=
    .code (@CodeWritten.digits 0 0 7 4 _ _ _ _ (.inl rfl) (.inl rfl) (.inl rfl) (.inl rfl))
  have characters : List.Forall₂ CharWritten "types".toList
      [['\\', 'u', '0', '0', '7', '4'], ['y'], ['p'], ['e'], ['s']] :=
    .cons escaped (.cons (charWritten_escapeChar 'y') (.cons (charWritten_escapeChar 'p')
      (.cons (charWritten_escapeChar 'e') (.cons (charWritten_escapeChar 's') .nil))))
  have behindTypes : LexemesWritten [.colon, .listOpen, .listOpen, .text "R", .comma, .text "T",
      .listClose, .listClose, .objectClose] ":[[\"R\" ,\"T\"]]\x7d".toList :=
    .cons .colon (.cons .listOpen (.cons .listOpen (.cons (written_textChars "R")
      (.space blank (.cons .comma (.cons (written_textChars "T")
        (.cons .listClose (.cons .listClose (.single .objectClose)))))))))
  have written : (Tree.object
      [("note", .list [.null]), ("types", .list [.list [.text "R", .text "T"]])]).WrittenIn
        "\x7b \"note\":[null],\n\"\\u0074ypes\":[[\"R\" ,\"T\"]]\x7d" :=
    LexemesWritten.cons .objectOpen (.space blank (.cons (written_textChars "note")
      (.cons .colon (.cons .listOpen (.cons .null (.cons .listClose (.cons .comma
        (.space newline (.cons (.text characters) behindTypes)))))))))
  refine ⟨written, (load_eq_ok_iff_describedBy written none _).mpr ?_⟩
  refine ⟨none, some (.list [.list [.text "R", .text "T"]]), ?_, rfl, _, rfl, .cons ?_ .nil⟩
  · exact .cons (by simp [valuesOf]) (.cons (by simp [valuesOf]) .nil)
  · exact ⟨none, none, ⟨2, rfl, rfl⟩, rfl, rfl⟩

/-- The text of a set is loaded as that set. -/
theorem load_text (path : Option String) (set : DescriptorSet) : load path (text set) = .ok set := by
  refine load_eq_ok_iff.mpr ⟨set.toValue, ?_, ofValue_toValue set⟩
  exact (shape.parse_eq_ok_iff distinct_shape (shape.writtenIn_compact set.toValue)).mpr
    (shape.fits_tree distinct_shape set.toValue)

/-- The text of a set is loaded as that set, and different sets have different texts. -/
theorem load_text_and_text_injective :
    (∀ path set, load path (text set) = .ok set) ∧ Function.Injective text := by
  constructor
  case left => exact load_text
  case right =>
    intro first second same
    have agree : load none (text first) = load none (text second) := congrArg (load none) same
    rw [load_text, load_text] at agree
    exact Except.ok.inj agree

end DescriptorSet

end RpcStubs
