/-!
# Parts of an intercalated text

A text put together from parts with a separator between them begins with its first part and holds
each of its parts.
-/

namespace RpcStubs.Text

/-- Parts with something between them begin with the first. -/
theorem exists_intercalate_cons_eq (separator first : String) (rest : List String) :
    ∃ after, separator.intercalate (first :: rest) = first ++ after := by
  by_cases only : rest = []
  · exact ⟨"", by simp [only]⟩
  · refine ⟨separator ++ separator.intercalate rest, ?_⟩
    rw [String.intercalate_cons_of_ne_nil only, String.append_assoc]

/-- What is put between parts leaves each of them standing. -/
theorem exists_intercalate_eq (separator : String) {part : String} {parts : List String}
    (member : part ∈ parts) :
    ∃ before after, separator.intercalate parts = before ++ part ++ after := by
  induction parts with
  | nil => cases member
  | cons first rest ih =>
      rcases List.mem_cons.mp member with rfl | later
      · rcases exists_intercalate_cons_eq separator part rest with ⟨after, found⟩
        exact ⟨"", after, by rw [found, String.empty_append]⟩
      · rcases ih later with ⟨before, after, found⟩
        refine ⟨first ++ separator ++ before, after, ?_⟩
        rw [String.intercalate_cons_of_ne_nil (List.ne_nil_of_mem later), found]
        simp only [String.append_assoc]

/-- Parts with nothing between them can be put together one group after the other. -/
theorem intercalate_empty_append (front back : List String) :
    "".intercalate (front ++ back) = "".intercalate front ++ "".intercalate back := by
  by_cases noFront : front = []
  · simp [noFront]
  · by_cases noBack : back = []
    · simp [noBack]
    · rw [String.intercalate_append_of_ne_nil noFront noBack, String.append_empty]

end RpcStubs.Text
