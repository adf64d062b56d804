/-!
# Parts of a text

A text stands within another if that is the text with something before and something behind it. It
still does when the other is written on, at either end.
-/

namespace RpcStubs.Text

/-- A text stands somewhere in another. -/
def Within (part whole : String) : Prop :=
  part.toList <:+: whole.toList

instance (part whole : String) : Decidable (Within part whole) :=
  inferInstanceAs (Decidable (_ <:+: _))

namespace Within

theorem refl (part : String) : Within part part :=
  List.infix_rfl

variable {part whole : String}

theorem trans {larger : String} (within : Within part whole) (again : Within whole larger) :
    Within part larger :=
  List.IsInfix.trans within again

/-- What stands in a text stands there with more behind it. -/
theorem append (within : Within part whole) (back : String) : Within part (whole ++ back) := by
  rw [Within, String.toList_append]
  exact List.IsInfix.trans within (List.prefix_append _ _).isInfix

/-- What stands in a text stands there with more before it. -/
theorem prepend (within : Within part whole) (front : String) : Within part (front ++ whole) := by
  rw [Within, String.toList_append]
  exact List.IsInfix.trans within (List.suffix_append _ _).isInfix

/-- A text with another one in it is that one with something before and something behind it. -/
theorem exists_eq (within : Within part whole) :
    ∃ before after, whole = before ++ part ++ after := by
  rcases within with ⟨before, after, chars⟩
  refine ⟨String.ofList before, String.ofList after, String.toList_inj.mp ?_⟩
  rw [String.toList_append, String.toList_append, String.toList_ofList, String.toList_ofList, chars]

end Within

end RpcStubs.Text
