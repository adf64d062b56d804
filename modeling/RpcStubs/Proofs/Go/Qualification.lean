import RpcStubs.Proofs.Go.Signature
import RpcStubs.Proofs.Text.Within

/-!
# Qualifiers in code

Code refers to an imported package by its name in front of a dot. The name has to stand where code
is read as code, so it is looked for in the stretches of code outside of comments, and there in
front of the first literal. Every stretch stands in the text of its code (`within_text`).
-/

namespace RpcStubs.Go

open Text (Within)

/-! ## Qualifiers -/

/-- Whether a token begins behind a text: it opens no literal and no comment, and it ends, if it
holds anything at all, in a blank or in the star of a pointer. -/
def opensToken (front : String) : Bool :=
  (front.toList.all fun c => !"\"'`/".toList.contains c)
    && front.toList.getLast?.all fun c => " *".toList.contains c

/-- A name is used as a qualifier in a stretch of code. -/
def Qualifies (name stretch : String) : Prop :=
  ∃ front back, stretch = front ++ name ++ "." ++ back ∧ opensToken front = true

namespace Code

/-! ## Stretches of code -/

mutual

/-- The texts in a piece of code that may refer to other code. Comments are left out, and so are the
names that the piece declares. -/
def stretches : Code → List String
  | line text => [text]
  | blank | comment _ | doc _ | indent | dedent => []
  | struct _ fields => fields.map Prod.snd
  | literal opening type entries => (opening ++ type) :: entries.map Prod.snd
  | block header body => header :: stretchesAll body
  | func receiver _ params results body =>
      receiver.toList ++ params :: results :: stretchesAll body

/-- The stretches of several pieces. -/
def stretchesAll : List Code → List String
  | [] => []
  | first :: rest => first.stretches ++ stretchesAll rest

end

/-- A piece of code refers to a package by a name. -/
def Uses (code : List Code) (name : String) : Prop :=
  ∃ stretch ∈ stretchesAll code, Qualifies name stretch

/-! ## Stretches in a text -/

/-- What stands in a line stands in its text. -/
theorem within_text_code {part words : String} (within : Within part words) (level : Nat) :
    Within part (Line.code level words).text :=
  (within.prepend _).append _

/-- The second column of each row stands in one of the lines that two columns are written in. -/
theorem exists_twoColumns {rows : List (String × String)} {row : String × String}
    (member : row ∈ rows) (gap : Nat) :
    ∃ written ∈ Text.twoColumns gap rows, Within row.2 written :=
  ⟨_, List.mem_map_of_mem member, (Within.refl row.2).prepend _⟩

/-- Receiver, parameters and results stand in the header of a function. -/
theorem within_funcHeader {receiver : Option String} {name params results part : String}
    (member : part ∈ receiver.toList ++ [params, results]) :
    Within part (funcHeader receiver name params results) := by
  have itself := Within.refl part
  rcases List.mem_append.mp member with inReceiver | behind
  · obtain rfl := Option.mem_toList.mp inReceiver
    have inFront : Within part ("func " ++ ("(" ++ part ++ ") ")) :=
      ((itself.prepend "(").append ") ").prepend "func "
    exact ((((inFront.append name).append "(").append params).append ")").append _
  · rcases List.mem_cons.mp behind with rfl | last
    · exact ((itself.prepend _).append ")").append _
    · obtain rfl := List.mem_singleton.mp last
      refine Within.prepend ?_ _
      split
      next empty => exact empty ▸ Within.refl ""
      next => exact itself.prepend " "

mutual

/-- Each stretch of a piece of code stands in one of its lines. -/
theorem exists_row_of_mem_stretches : ∀ (level : Nat) (code : Code) (stretch : String),
    stretch ∈ code.stretches → ∃ row ∈ (code.layout level).1, Within stretch row.text
  | level, line text, _, member => by
      obtain rfl := List.mem_singleton.mp member
      exact ⟨_, List.mem_singleton_self _, within_text_code (.refl _) level⟩
  | level, struct name (field :: fields), _, member => by
      rcases List.mem_map.mp member with ⟨row, inFields, rfl⟩
      rcases exists_twoColumns inFields 1 with ⟨written, listed, within⟩
      refine ⟨.code (level + 1) written, ?_, within_text_code within _⟩
      exact List.mem_append_left _ (.tail _ (List.mem_map_of_mem listed))
  | level, literal opening type entries, _, member => by
      rcases List.mem_cons.mp member with rfl | inEntries
      · exact ⟨_, .head _, within_text_code ((Within.refl (opening ++ type)).append _) level⟩
      · rcases List.mem_map.mp inEntries with ⟨entry, listed, rfl⟩
        rcases exists_twoColumns (List.mem_map_of_mem
            (f := fun entry => (entry.1 ++ ":", entry.2 ++ ",")) listed) 1 with
          ⟨written, inColumns, within⟩
        refine ⟨.code (level + 1) written, ?_, within_text_code ?_ _⟩
        · exact List.mem_append_left _ (.tail _ (List.mem_map_of_mem inColumns))
        · exact ((Within.refl entry.2).append ",").trans within
  | level, block header body, stretch, member => by
      rcases List.mem_cons.mp member with rfl | inBody
      · exact ⟨_, .head _, within_text_code ((Within.refl stretch).append _) level⟩
      · rcases exists_row_of_mem_stretchesAll (level + 1) body stretch inBody with
          ⟨row, laidOut, within⟩
        exact ⟨row, List.mem_append_left _ (.tail _ laidOut), within⟩
  | level, func receiver name params results body, stretch, member => by
      have parts : stretch ∈ receiver.toList ++ [params, results] ∨ stretch ∈ stretchesAll body := by
        simpa [stretches, or_assoc] using member
      rcases parts with inHeader | inBody
      · exact ⟨_, .head _, within_text_code ((within_funcHeader inHeader).append _) level⟩
      · rcases exists_row_of_mem_stretchesAll (level + 1) body stretch inBody with
          ⟨row, laidOut, within⟩
        exact ⟨row, List.mem_append_left _ (.tail _ laidOut), within⟩

/-- Each stretch of some pieces stands in one of their lines. -/
theorem exists_row_of_mem_stretchesAll : ∀ (level : Nat) (code : List Code) (stretch : String),
    stretch ∈ stretchesAll code → ∃ row ∈ (layoutAll level code).1, Within stretch row.text
  | level, first :: rest, stretch, member => by
      rcases List.mem_append.mp member with inFirst | inRest
      · rcases exists_row_of_mem_stretches level first stretch inFirst with ⟨row, laidOut, within⟩
        exact ⟨row, List.mem_append_left _ laidOut, within⟩
      · rcases exists_row_of_mem_stretchesAll _ rest stretch inRest with ⟨row, laidOut, within⟩
        exact ⟨row, List.mem_append_right _ laidOut, within⟩

end

/-- Each stretch of some code stands in its text. -/
theorem within_text {code : List Code} {stretch : String} (member : stretch ∈ stretchesAll code) :
    Within stretch (text code) := by
  rcases exists_row_of_mem_stretchesAll 0 code stretch member with ⟨row, laidOut, within⟩
  rcases exists_text_eq_of_mem_layoutAll laidOut with ⟨before, after, found⟩
  rw [found]
  exact (within.prepend before).append after

end Code

end RpcStubs.Go
