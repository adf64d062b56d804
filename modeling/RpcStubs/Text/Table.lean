/-!
# Two columns

Rows of two texts are written so that the second texts begin in one column. Widths count characters.
-/

namespace RpcStubs.Text

/-- A text brought to a width with spaces at its end. -/
def pad (width : Nat) (text : String) : String :=
  text ++ String.ofList (List.replicate (width - text.length) ' ')

/-- The length of the longest of some texts. -/
def widest (texts : List String) : Nat :=
  texts.foldr (fun text width => max text.length width) 0

/-- Two columns, the second one a gap behind the longest text of the first. -/
def twoColumns (gap : Nat) (rows : List (String × String)) : List String :=
  rows.map fun row => pad (widest (rows.map Prod.fst) + gap) row.1 ++ row.2

theorem length_pad (width : Nat) (text : String) :
    (pad width text).length = max text.length width := by
  simp [pad, String.length_append, String.length_ofList]
  omega

theorem length_le_widest {texts : List String} {text : String} (member : text ∈ texts) :
    text.length ≤ widest texts := by
  induction texts with
  | nil => simp at member
  | cons first rest ih =>
      rcases List.mem_cons.mp member with rfl | later
      · exact Nat.le_max_left _ _
      · exact Nat.le_trans (ih later) (Nat.le_max_right _ _)

end RpcStubs.Text
